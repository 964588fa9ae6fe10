import StreamHost.Proofs.SettingsChecks
import StreamHost.Proofs.WildcardLabels

/-!
The registry that a TLS section describes. Its entries are read one after the other, each with a certificate
of its own, and a later entry for a pattern would replace an earlier one. Settings that pass have no two
entries for one pattern, whatever the spelling, so each of them has its place in the registry: its domain
is served with its own certificate, and every name that no domain fits with that of the section. All other
settings of the section are the same for all of its configurations.
-/

namespace StreamHost.Names

variable {α : Type} {es : Entries α} {added : List (Pattern × α)} {p : Pattern} {a : α}

/-! ## Entries for different patterns -/

/-- Where nothing is replaced all entries stay. -/
theorem Entries.pairs_insertAll (once : (added.map Prod.fst).Nodup)
    (fresh : ∀ e ∈ added, ∀ f ∈ es.pairs, f.1 ≠ e.1) :
    (es.insertAll added).pairs = added.reverse ++ es.pairs := by
  induction added generalizing es with
  | nil => rfl
  | cons first rest ih =>
    obtain ⟨q, b⟩ := first
    obtain ⟨new, once⟩ := List.nodup_cons.mp once
    have kept : (es.insert q b).pairs = (q, b) :: es.pairs := by
      have all : es.pairs.filter (fun f => f.1 != q) = es.pairs := by
        refine List.filter_eq_self.mpr ?_
        intro f member
        simpa using fresh (q, b) List.mem_cons_self f member
      simp only [insert, all]
    have later : ∀ e ∈ rest, ∀ f ∈ (es.insert q b).pairs, f.1 ≠ e.1 := by
      intro e member f old
      rw [kept] at old
      cases List.mem_cons.mp old with
      | inl own =>
        intro same
        rw [own] at same
        exact new (List.mem_map.mpr ⟨e, member, same.symm⟩)
      | inr old => exact fresh e (List.mem_cons_of_mem _ member) f old
    show ((es.insert q b).insertAll rest).pairs = _
    rw [ih once later, kept]
    simp

theorem Entries.size_insertAll (once : (added.map Prod.fst).Nodup) :
    (({} : Entries α).insertAll added).size = added.length := by
  have all : (({} : Entries α).insertAll added).pairs = added.reverse ++ [] := by
    refine pairs_insertAll once ?_
    intro e _ f old
    cases old
  simp [size, all]

theorem Entries.get?_insertAll_of_nodup (once : (added.map Prod.fst).Nodup) :
    (({} : Entries α).insertAll added).get? p = some a ↔ (p, a) ∈ added := by
  rw [get?_insertAll]
  constructor
  · rintro (⟨front, back, rfl, -⟩ | ⟨-, found⟩)
    · simp
    · cases found
  · intro member
    obtain ⟨front, back, rfl⟩ := List.append_of_mem member
    refine .inl ⟨front, back, rfl, ?_⟩
    intro e later same
    rw [List.map_append, List.map_cons] at once
    have new := (List.nodup_cons.mp (List.nodup_append.mp once).2.1).1
    exact new (List.mem_map.mpr ⟨e, later, same⟩)

/-- A pattern fits a host whose name it is, or in front of whose parent it stands for one label. The label
may be empty, as registries have it. -/
def Pattern.Fits (p : Pattern) (host : String) : Prop :=
  p = ⟨.ofList (normalize host.toList)⟩ ∨
    ∃ label parent, p = ⟨.ofList ('*' :: '.' :: parent)⟩ ∧
      normalize host.toList = label ++ '.' :: parent ∧ '.' ∉ label

namespace Registry

variable {r : Registry α}

/-- The domain of a pattern is served by the entry of that pattern. -/
theorem lookup_of_parse {raw : String} (read : Pattern.parse raw = .ok p) (own : r.Lists p a) :
    r.lookup (some raw) = ⟨a, .exact p⟩ := by
  obtain ⟨rfl, filled, -⟩ := Pattern.parse_eq_ok_iff.mp read
  rw [lookup_of_ne_nil filled, serve_of_lists own]

/-- A name that no pattern fits gets the default. -/
theorem lookup_of_unfit {host : Option String}
    (unfit : ∀ text, host = some text → ∀ p a, r.Lists p a → ¬ p.Fits text) :
    r.lookup host = ⟨r.fallback, .default⟩ := by
  have serves := serves_lookup r host
  generalize r.lookup host = found at serves
  cases serves with
  | absent | empty | unmatched => rfl
  | exact normal filled own =>
    refine absurd ?_ (unfit _ rfl _ _ own)
    left
    rw [normal]
  | wildcard normal first unlisted covered =>
    refine absurd ?_ (unfit _ rfl _ _ covered)
    exact .inr ⟨_, _, rfl, normal, first⟩

end Registry

end StreamHost.Names

namespace StreamHost

/-! ## Configurations -/

namespace Tls.Configuration

theorem resolveSuites_eq_ok {names : List String} {suites : List Suite}
    (known : resolveSuites names = .ok suites) : names.map Suite.ofName? = suites.map some := by
  induction names generalizing suites with
  | nil =>
    cases known
    rfl
  | cons name rest ih =>
    unfold resolveSuites at known
    cases named : Suite.ofName? name with
    | none =>
      simp only [named] at known
      cases known
    | some s =>
      simp only [named] at known
      cases later : resolveSuites rest with
      | error cause =>
        rw [later] at known
        cases known
      | ok found =>
        rw [later] at known
        obtain rfl : s :: found = suites := Except.ok.inj known
        rw [List.map_cons, List.map_cons, named, ih later]

/-- What is built of a request has what the request says. -/
theorem build_eq_ok {r : Request} {x : Configuration} (built : build r = .ok x) :
    ∃ certificate rest suites publicKey, r.chain = certificate :: rest ∧
      resolveSuites r.suiteNames = .ok suites ∧
      x = {
        chain := certificate :: rest
        certificate
        publicKey
        suites := if r.suiteNames.isEmpty then Suite.preferred else suites
        versions := resolveVersions r.versions
        alpn := r.alpn.getD r.flavor.alpn
        explicitAlpn := r.alpn.isSome
        flavor := r.flavor
        timeout := r.timeout
        hook := r.hook } := by
  unfold build at built
  cases given : r.chain with
  | nil =>
    simp only [given] at built
    cases built
  | cons certificate rest =>
    by_cases zero : r.timeout.nanos = 0
    · simp only [given, if_pos zero] at built
      cases built
    · simp only [given, if_neg zero] at built
      cases named : resolveSuites r.suiteNames with
      | error cause =>
        rw [named] at built
        cases built
      | ok suites =>
        simp only [named, bind, Except.bind] at built
        by_cases usable : ((if r.suiteNames.isEmpty = true then Suite.preferred else suites).any fun s =>
            (resolveVersions r.versions).contains s.version) = true
        · rw [if_pos usable] at built
          cases matched : matchKey certificate r.key with
          | error cause =>
            simp only [matched] at built
            cases built
          | ok publicKey =>
            simp only [matched] at built
            exact ⟨certificate, rest, suites, publicKey, rfl, rfl, (Except.ok.inj built).symm⟩
        · rw [if_neg usable] at built
          cases built

end Tls.Configuration

namespace Config

variable {files : Files} {t : Tls} {x : StreamHost.Tls.Configuration} {es : List SniEntry}
  {certPath keyPath : String}

/-- What a section says apart from certificates holds of a configuration. -/
structure Tls.SharedWith (t : Tls) (x : StreamHost.Tls.Configuration) : Prop where
  flavor : x.flavor = t.flavor
  timeout : x.timeout = Duration.ofMillis t.handshakeTimeoutMs
  /-- The suites are the listed ones in their order. -/
  suites : if t.cipherSuites = [] then x.suites = StreamHost.Tls.Suite.preferred
    else t.cipherSuites.map StreamHost.Tls.Suite.ofName? = x.suites.map some
  versions : x.versions = StreamHost.Tls.Configuration.resolveVersions t.protocolVersions
  alpn : x.alpn = match t.alpn with
    | some ps => ps.map Bytes.ofText
    | none => t.flavor.alpn

/-- The certificate of a configuration is the first one in its file, and the rest is that of the section. -/
theorem configuration_eq_ok (made : configuration files t certPath keyPath = .ok x) :
    ∃ leaf rest, Pem.loadCertificates files certPath = .ok (leaf :: rest) ∧ x.certificate = leaf ∧
      t.SharedWith x := by
  unfold configuration Pem.loadPair at made
  cases loaded : Pem.loadCertificates files certPath with
  | error e =>
    rw [loaded] at made
    cases made
  | ok chain =>
    cases keyed : Pem.loadPrivateKey files keyPath with
    | error e =>
      rw [loaded, keyed] at made
      cases made
    | ok key =>
      simp only [loaded, keyed, bind, Except.bind, pure, Except.pure] at made
      split at made
      · rename_i built
        obtain rfl := Except.ok.inj made
        obtain ⟨leaf, rest, suites, publicKey, given, named, rfl⟩ :=
          StreamHost.Tls.Configuration.build_eq_ok built
        obtain rfl : chain = leaf :: rest := given
        refine ⟨leaf, rest, rfl, rfl, rfl, rfl, ?_, rfl, ?_⟩
        · by_cases unlisted : t.cipherSuites = []
          · rw [if_pos unlisted]
            simp [unlisted]
          · rw [if_neg unlisted, if_neg (by simpa using unlisted)]
            exact StreamHost.Tls.Configuration.resolveSuites_eq_ok named
        · cases t.alpn <;> rfl
      · cases made

/-! ## Registries -/

/-- Patterns and configurations are what is read for entries, in their order. -/
def Reads (files : Files) (t : Tls) (es : List SniEntry)
    (written : List (Names.Pattern × StreamHost.Tls.Configuration)) : Prop :=
  es.map (fun e => (Names.Pattern.parse e.domain, configuration files t e.certPath e.keyPath)) =
    written.map fun w => (.ok w.1, .ok w.2)

section

variable {written : List (Names.Pattern × StreamHost.Tls.Configuration)}

theorem Reads.at_place {i : Nat} {e : SniEntry} (reads : Reads files t es written) (found : es[i]? = some e) :
    ∃ w ∈ written, Names.Pattern.parse e.domain = .ok w.1 ∧
      configuration files t e.certPath e.keyPath = .ok w.2 := by
  have place := congrArg (·[i]?) reads
  simp only [List.getElem?_map, found, Option.map_some] at place
  obtain ⟨w, there, equal⟩ := Option.map_eq_some_iff.mp place.symm
  obtain ⟨parsed, configured⟩ := Prod.mk.inj equal
  exact ⟨w, List.mem_of_getElem? there, parsed.symm, configured.symm⟩

theorem Reads.origin {p : Names.Pattern} (reads : Reads files t es written) (member : (p, x) ∈ written) :
    ∃ e ∈ es, Names.Pattern.parse e.domain = .ok p ∧
      configuration files t e.certPath e.keyPath = .ok x := by
  have listed := List.mem_map_of_mem (f := fun w => (Except.ok (ε := Names.PatternError) w.1,
    Except.ok (ε := Error) w.2)) member
  rw [← reads] at listed
  obtain ⟨e, inside, equal⟩ := List.mem_map.mp listed
  obtain ⟨parsed, configured⟩ := Prod.mk.inj equal
  exact ⟨e, inside, parsed, configured⟩

/-- The patterns are the ones that were checked, so none of them comes twice. -/
theorem Reads.nodup (reads : Reads files t t.sni written) (passes : checkTls t = []) :
    (written.map Prod.fst).Nodup := by
  obtain ⟨ps, read, once⟩ := patterns_of_checkTls passes
  have first := congrArg (List.map Prod.fst) reads
  simp only [List.map_map, Function.comp_def] at first
  rw [read] at first
  have equal : (written.map Prod.fst).map (Except.ok (ε := Names.PatternError)) = ps.map .ok := by
    rw [first, List.map_map]
    rfl
  have same : written.map Prod.fst = ps := (List.map_inj_right fun _ _ => Except.ok.inj).mp equal
  exact same ▸ once

end

/-- Entries are added one after the other, each with its pattern and its configuration. -/
theorem addEntries_eq_ok {b more : StreamHost.Tls.RegistryBuilder}
    (added : addEntries files t b es = .ok more) :
    ∃ written, Reads files t es written ∧ more = { b with entries := b.entries.insertAll written } := by
  induction es generalizing b with
  | nil =>
    obtain rfl : b = more := Except.ok.inj added
    exact ⟨[], rfl, rfl⟩
  | cons e rest ih =>
    unfold addEntries at added
    cases made : configuration files t e.certPath e.keyPath with
    | error cause =>
      rw [made] at added
      cases added
    | ok x =>
      simp only [made, bind, Except.bind, Names.RegistryBuilder.add_eq] at added
      cases read : Names.Pattern.parse e.domain with
      | error cause =>
        simp only [read, Except.map] at added
        cases added
      | ok p =>
        simp only [read, Except.map] at added
        obtain ⟨written, reads, rfl⟩ := ih added
        refine ⟨(p, x) :: written, ?_, rfl⟩
        unfold Reads at reads ⊢
        rw [List.map_cons, List.map_cons, made, read, reads]

theorem buildRegistry_eq_ok {r : StreamHost.Tls.Registry} (built : buildRegistry files t = .ok r) :
    ∃ d written, configuration files t t.certPath t.keyPath = .ok d ∧ Reads files t t.sni written ∧
      r = { names := ⟨d, ({} : Names.Entries StreamHost.Tls.Configuration).insertAll written⟩ } := by
  unfold buildRegistry at built
  cases made : configuration files t t.certPath t.keyPath with
  | error cause =>
    rw [made] at built
    cases built
  | ok d =>
    simp only [made, bind, Except.bind] at built
    split at built
    · cases built
    · rename_i added
      obtain ⟨written, reads, rfl⟩ := addEntries_eq_ok added
      obtain rfl := Except.ok.inj built
      exact ⟨d, written, rfl, reads, rfl⟩

/-- A registry is what a section says. -/
structure Tls.Describes (files : Files) (t : Tls) (r : StreamHost.Tls.Registry) : Prop where
  /-- There is one entry for each domain. -/
  size : r.names.size = t.sni.length
  /-- A domain as it is written is served by its own entry, with the first certificate in its file. -/
  domain : ∀ (i : Nat) e, t.sni[i]? = some e → ∃ p leaf rest x,
    Names.Pattern.parse e.domain = .ok p ∧
    Pem.loadCertificates files e.certPath = .ok (leaf :: rest) ∧
    r.lookup (some e.domain) = ⟨x, .exact p⟩ ∧ x.certificate = leaf
  /-- A name that no domain fits, and no name at all, gets the first certificate in the section's file. -/
  other : ∃ leaf rest, Pem.loadCertificates files t.certPath = .ok (leaf :: rest) ∧
    ∀ host, (∀ text, host = some text → ∀ e ∈ t.sni, ∀ p, Names.Pattern.parse e.domain = .ok p →
      ¬ p.Fits text) →
      r.lookup host = ⟨r.fallback, .default⟩ ∧ r.fallback.certificate = leaf
  /-- Everything else is the same for all configurations. -/
  shared : ∀ x, (x = r.fallback ∨ ∃ p, r.names.Lists p x) → t.SharedWith x

/-- A registry that is built from settings that pass is what their TLS section says. -/
theorem registry_is_as_described (c : Server) (r : StreamHost.Tls.Registry) (accepted : validate c = .ok ())
    (given : c.tls = some t) (built : buildRegistry files t = .ok r) : t.Describes files r := by
  obtain ⟨d, written, made, reads, rfl⟩ := buildRegistry_eq_ok built
  have different : (written.map Prod.fst).Nodup := reads.nodup ((sound_of_validate accepted).tls t given)
  have lists : ∀ p x, (({} : Names.Entries StreamHost.Tls.Configuration).insertAll written).get? p = some x ↔
      (p, x) ∈ written := by
    intro p x
    exact Names.Entries.get?_insertAll_of_nodup different
  obtain ⟨leaf, rest, loaded, certified, shared⟩ := configuration_eq_ok made
  refine ⟨?size, ?domain, ⟨leaf, rest, loaded, ?other⟩, ?shared⟩
  case size =>
    have counted := congrArg List.length reads
    simp only [List.length_map] at counted
    exact (Names.Entries.size_insertAll different).trans counted.symm
  case domain =>
    intro i e found
    obtain ⟨w, member, parsed, configured⟩ := reads.at_place found
    obtain ⟨own, more, file, first, -⟩ := configuration_eq_ok configured
    have listed := (lists w.1 w.2).mpr member
    exact ⟨w.1, own, more, w.2, parsed, file, Names.Registry.lookup_of_parse parsed listed, first⟩
  case other =>
    intro host unfit
    refine ⟨Names.Registry.lookup_of_unfit ?_, certified⟩
    intro text named p x listed
    obtain ⟨e, inside, parsed, -⟩ := reads.origin ((lists p x).mp listed)
    exact unfit text named e inside p parsed
  case shared =>
    rintro x (rfl | ⟨p, listed⟩)
    · exact shared
    · obtain ⟨e, -, -, configured⟩ := reads.origin ((lists p x).mp listed)
      obtain ⟨-, -, -, -, also⟩ := configuration_eq_ok configured
      exact also

/-! ## A small registry -/

/-- The public point of the secret number one. -/
def basePoint : Bytes := Crypto.Weierstrass.p256.encode Crypto.Weierstrass.p256.base

/-- The key with that secret number. -/
def baseKey : StreamHost.Tls.PrivateKey where
  form := .sec1
  der := StreamHost.Tls.Der.sequence [StreamHost.Tls.Der.number 1,
    StreamHost.Tls.Der.octets (Bytes.ofNat 32 1),
    StreamHost.Tls.Der.encode (StreamHost.Tls.Der.contextTag 1) (StreamHost.Tls.Der.bits basePoint)]

/-- A certificate for that key, as short as can be, that is told from others by its number. -/
def baseCertificate (n : Nat) : Bytes :=
  let nothing := StreamHost.Tls.Der.sequence []
  StreamHost.Tls.Der.sequence [
    StreamHost.Tls.Der.sequence [
      StreamHost.Tls.Der.encode (StreamHost.Tls.Der.contextTag 0) (StreamHost.Tls.Der.number 2),
      StreamHost.Tls.Der.number n, nothing, nothing, nothing, nothing,
      StreamHost.Tls.Der.sequence [(StreamHost.Tls.PublicKey.ecdsa .p256 basePoint).subjectInfo]],
    nothing, StreamHost.Tls.Der.bits []]

/-- Two certificates and the key. -/
def baseFiles : Files where
  nodes := [(["a"], .file (Pem.Section.encode ⟨.certificate, baseCertificate 1⟩)),
    (["b"], .file (Pem.Section.encode ⟨.certificate, baseCertificate 2⟩)),
    (["k"], .file (Pem.Section.encode ⟨.ecPrivateKey, baseKey.der⟩))]

/-- A certificate for every name, and one for a domain. -/
def baseSection : Tls where
  certPath := "a"
  keyPath := "k"
  cipherSuites := ["TLS_CHACHA20_POLY1305_SHA256", "TLS_AES_128_GCM_SHA256"]
  alpn := some ["h2"]
  sni := [{ domain := "*.Test.com.", certPath := "b", keyPath := "k" }]

theorem baseSection_describes :
    ∃ r, buildRegistry baseFiles baseSection = .ok r ∧ baseSection.Describes baseFiles r := by
  have accepted : validate { tls := some baseSection } = .ok () :=
    validate_eq_ok_iff.mpr (by decide +kernel)
  have builds : (buildRegistry baseFiles baseSection).toBool = true := by
    -- Paths are cut by a recursion that has to be unfolded by hand, once for the letter and once for the end.
    obtain ⟨a, b, k⟩ : Files.names "a" = ["a"] ∧ Files.names "b" = ["b"] ∧ Files.names "k" = ["k"] := by
      refine ⟨?_, ?_, ?_⟩ <;>
      · unfold Files.names String.splitOn
        rw [String.splitOnAux, String.splitOnAux]
        decide +kernel
    simp only [buildRegistry, addEntries, configuration, Pem.loadPair, Pem.loadCertificates,
      Pem.loadPrivateKey, Pem.openFile, Files.exists, Files.read, Files.find, Files.locate, baseSection, a, b, k]
    decide +kernel
  cases built : buildRegistry baseFiles baseSection with
  | error e =>
    rw [built] at builds
    cases builds
  | ok r => exact ⟨r, rfl, registry_is_as_described { tls := some baseSection } r accepted rfl built⟩

end Config

end StreamHost
