import StreamHost.Proofs.SettingsRegistry

/-!
Flavors that are given to registries and configurations after they were made. A registry answers every
name as before, with the same match, and its configurations have the last flavor that was given, as if it
had been the only one. A configuration keeps everything but its flavor and, unless its request named them,
the protocols it offers; so it is the one that would have been built with that flavor.
-/

namespace StreamHost.Names.Registry

variable {α β : Type}

/-- A changed registry answers as the registry did, with changed answers. -/
theorem lookup_map (f : α → β) (r : Registry α) (host : Option String) :
    (r.map f).lookup host = ⟨f (r.lookup host).chosen, (r.lookup host).matched⟩ := by
  have served : ∀ name, (r.map f).serve name = ⟨f (r.serve name).chosen, (r.serve name).matched⟩ := by
    intro name
    simp only [serve, map, Entries.get?_map]
    cases r.entries.get? ⟨.ofList name⟩ with
    | some a => rfl
    | none =>
      cases Pattern.covering? name with
      | none => rfl
      | some p => cases covered : r.entries.get? p <;> simp [covered]
  cases host with
  | none => rfl
  | some text =>
    simp only [lookup, Option.map_some]
    cases normalize text.toList with
    | nil => rfl
    | cons c cs => exact served (c :: cs)

theorem patterns_map (f : α → β) (r : Registry α) : (r.map f).patterns = r.patterns := by
  simp [patterns, map, Entries.map, Function.comp_def]

theorem map_map {γ : Type} (f : α → β) (g : β → γ) (r : Registry α) :
    (r.map f).map g = r.map fun a => g (f a) := by
  simp [map, Entries.map, Function.comp_def]

end StreamHost.Names.Registry

namespace StreamHost.Tls

namespace Configuration

/-- Whether a request is granted does not depend on its flavor, and what it gets is what another flavor
gets, given this one. -/
theorem build_flavor (q : Request) (f g : Flavor) :
    build { q with flavor := f } = (build { q with flavor := g }).map (·.withFlavor f) := by
  unfold build
  cases q.chain with
  | nil => rfl
  | cons certificate rest =>
    by_cases zero : q.timeout.nanos = 0
    · simp only [if_pos zero]
      rfl
    · simp only [if_neg zero]
      cases resolveSuites q.suiteNames with
      | error cause => rfl
      | ok named =>
        simp only [bind, Except.bind]
        generalize (if q.suiteNames.isEmpty then Suite.preferred else named) = suites
        cases usable : suites.any fun s => (resolveVersions q.versions).contains s.version with
        | false => rfl
        | true =>
          simp only [↓reduceIte]
          cases matchKey certificate q.key with
          | error cause => rfl
          | ok key => cases given : q.alpn <;> rfl

/-- A request that names protocols, be it none at all, gets these with any flavor. -/
theorem alpn_of_build {q : Request} {c : Configuration} (built : build q = .ok c) (f : Flavor) :
    (c.withFlavor f).alpn = q.alpn.getD f.alpn := by
  obtain ⟨certificate, rest, suites, publicKey, -, -, rfl⟩ := build_eq_ok built
  cases given : q.alpn <;> simp [withFlavor]

end Configuration

namespace Registry

/-- A registry that is given flavors one after the other. -/
def withFlavors (r : Registry) (fs : List Flavor) : Registry := fs.foldl withFlavor r

theorem withFlavor_withFlavor (r : Registry) (f g : Flavor) :
    (r.withFlavor f).withFlavor g = r.withFlavor g := by
  simp [withFlavor, Names.Registry.map_map, Configuration.withFlavor_withFlavor]

/-- Only the last flavor counts. -/
theorem withFlavors_concat (r : Registry) (earlier : List Flavor) (last : Flavor) :
    r.withFlavors (earlier ++ [last]) = r.withFlavor last := by
  induction earlier generalizing r with
  | nil => rfl
  | cons f rest ih =>
    calc r.withFlavors (f :: rest ++ [last])
        = (r.withFlavor f).withFlavors (rest ++ [last]) := rfl
      _ = (r.withFlavor f).withFlavor last := ih _
      _ = r.withFlavor last := withFlavor_withFlavor r f last

/-- A registry that was given any number of flavors answers each name with the match it had, and with the
configuration it had, given the last of these flavors alone. A configuration that is given a flavor offers
the protocols of that flavor, unless its request named protocols; it keeps all else, and it is what the
same request would have got with that flavor. -/
theorem last_flavor_counts (r : Registry) (earlier : List Flavor) (last : Flavor)
    (host : Option String) (c : Configuration) (q : Request) (before : Flavor) :
    (r.withFlavors (earlier ++ [last])).lookup host =
        ⟨(r.lookup host).chosen.withFlavor last, (r.lookup host).matched⟩ ∧
      (r.withFlavors (earlier ++ [last])).flavor = some last ∧
      (r.withFlavors (earlier ++ [last])).fallback = r.fallback.withFlavor last ∧
      (r.withFlavors (earlier ++ [last])).names.patterns = r.names.patterns ∧
      ((c.withFlavor last).flavor = last ∧
        (c.withFlavor last).alpn = (if c.explicitAlpn then c.alpn else last.alpn) ∧
        { c.withFlavor last with flavor := c.flavor, alpn := c.alpn } = c) ∧
      Configuration.build { q with flavor := last } =
        (Configuration.build { q with flavor := before }).map (·.withFlavor last) ∧
      ∀ built, Configuration.build { q with flavor := before } = .ok built →
        built.explicitAlpn = q.alpn.isSome ∧
          (built.withFlavor last).alpn = q.alpn.getD last.alpn := by
  rw [withFlavors_concat]
  refine ⟨?_, rfl, rfl, ?_, ⟨rfl, rfl, rfl⟩, ?_, fun built made => ⟨?_, ?_⟩⟩
  · exact r.names.lookup_map (·.withFlavor last) host
  · exact r.names.patterns_map (·.withFlavor last)
  · exact Configuration.build_flavor q last before
  · obtain ⟨_, _, _, _, -, -, rfl⟩ := Configuration.build_eq_ok made
    rfl
  · exact Configuration.alpn_of_build made last

end Registry

end StreamHost.Tls
