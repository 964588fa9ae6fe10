import StreamHost.Proofs.RegistryHistory

/-!
What a match says about the name that was looked up. A wildcard serves names with one label in front of
its parent. That label may be empty, though, in a name that begins with a dot; and a name that is written
like a wildcard is served by that wildcard as if it were the name of a host.
-/

namespace StreamHost.Names

/-! ## Patterns -/

/-- The patterns: a name in normal form whose labels, apart from a leading wildcard, are neither empty nor
hold a star. -/
theorem Pattern.parse_eq_ok_iff {raw : String} {p : Pattern} :
    parse raw = .ok p ↔ p = ⟨.ofList (normalize raw.toList)⟩ ∧ normalize raw.toList ≠ [] ∧
      body (normalize raw.toList) ≠ [] ∧ '*' ∉ body (normalize raw.toList) ∧
      ∀ label ∈ Text.pieces '.' (body (normalize raw.toList)), label ≠ [] := by
  simp only [parse]
  generalize normalize raw.toList = name
  by_cases filled : name = []
  · simp [filled]
  · by_cases rest : body name = []
    · simp [filled, rest]
    · by_cases starred : '*' ∈ body name
      · simp [filled, starred]
      · by_cases gaps : ∃ label ∈ Text.pieces '.' (body name), label = []
        · simp [filled, rest, starred, gaps]
        · have clear : ∀ label ∈ Text.pieces '.' (body name), label ≠ [] :=
            fun label member gap => gaps ⟨label, member, gap⟩
          have passes : [] ∉ Text.pieces '.' (body name) := fun member => clear [] member rfl
          have accepted : (⟨.ofList name⟩ : Pattern) = p ↔ p = ⟨.ofList name⟩ := eq_comm
          simpa [filled, rest, starred, passes, accepted] using fun _ => clear

/-- A wildcard has a parent. -/
theorem Pattern.ne_nil_of_parse {raw : String} {parent : List Char}
    (read : parse raw = .ok ⟨.ofList ('*' :: '.' :: parent)⟩) : parent ≠ [] := by
  obtain ⟨same, -, rest, -, -⟩ := parse_eq_ok_iff.mp read
  have name : '*' :: '.' :: parent = normalize raw.toList :=
    String.ofList_injective (Pattern.mk.inj same)
  rw [← name] at rest
  exact rest

theorem Pattern.isWildcard_iff {name : List Char} :
    (⟨.ofList name⟩ : Pattern).isWildcard = true ↔ ∃ parent, name = '*' :: '.' :: parent := by
  simp only [isWildcard, String.toList_ofList]
  split
  · simp
  · rename_i other
    simpa using other

/-! ## Matches -/

namespace RegistryBuilder

/-- What is written in a history stands there under a text that means its pattern. -/
theorem LastWrite.read {α : Type} {ops : List (Op α)} {p : Pattern} {a : α}
    (written : LastWrite ops p a) : ∃ raw, Pattern.parse raw = .ok p := by
  obtain ⟨-, -, -, -, -, ⟨-, raw, -, -, read, -⟩, -⟩ := written
  exact ⟨raw, read⟩

end RegistryBuilder

end StreamHost.Names

namespace StreamHost.Tls.Registry

open Names (normalize Pattern)
open Names.RegistryBuilder (Op LastWrite)

/-- A name that a wildcard serves is one label, a dot, and the parent of that wildcard. The label is
empty exactly if the name begins with a dot. A name that is found itself is a wildcard exactly if it is
written as one. -/
theorem match_fits_name (ops : List (Op Configuration)) (r : Registry)
    (built : ofBuilder (Names.RegistryBuilder.run {} ops) = .ok r) (host : String) :
    (∀ p, (r.lookup (some host)).matched = .wildcard p →
      ∃ label parent, p = ⟨.ofList ('*' :: '.' :: parent)⟩ ∧ parent ≠ [] ∧ '.' ∉ label ∧
        normalize host.toList = label ++ '.' :: parent ∧
        (label = [] ↔ (normalize host.toList).head? = some '.')) ∧
    ∀ p, (r.lookup (some host)).matched = .exact p → p = ⟨.ofList (normalize host.toList)⟩ ∧
      (p.isWildcard = true ↔ ∃ parent, normalize host.toList = '*' :: '.' :: parent) := by
  have entries := lists_of_ofBuilder built
  have serves := Names.Registry.serves_lookup r.names (some host)
  rw [entries] at serves
  change Names.Serves _ _ (some host) (r.lookup (some host)) at serves
  generalize r.lookup (some host) = found at serves
  refine ⟨fun p wildcard => ?_, fun p exact => ?_⟩
  · cases serves with
    | empty | exact | unmatched => cases wildcard
    | @wildcard _ label parent a normal first unlisted covered =>
      obtain rfl := Names.Match.wildcard.inj wildcard
      obtain ⟨raw, read⟩ := covered.read
      refine ⟨label, parent, rfl, Pattern.ne_nil_of_parse read, first, normal, ?_⟩
      rw [normal]
      cases label with
      | nil => simp
      | cons c cs =>
        have other : c ≠ '.' := fun same => first (same ▸ List.mem_cons_self)
        simpa using other
  · cases serves with
    | empty | wildcard | unmatched => cases exact
    | exact normal filled own =>
      subst normal
      obtain rfl := Names.Match.exact.inj exact
      exact ⟨rfl, Pattern.isWildcard_iff⟩

/-- A wildcard alone, and a default. -/
def testDomain : List (Op Configuration) :=
  [.setDefault (certified 1), .add "*.test.com" (certified 2)]

theorem label_of_covered_name :
    ∃ r, ofBuilder (Names.RegistryBuilder.run {} testDomain) = .ok r ∧
      (r.lookup (some "A.test.com.")).matched = .wildcard ⟨"*.test.com"⟩ ∧
      ∃ label parent, (⟨"*.test.com"⟩ : Pattern) = ⟨.ofList ('*' :: '.' :: parent)⟩ ∧ parent ≠ [] ∧
        '.' ∉ label ∧ normalize "A.test.com.".toList = label ++ '.' :: parent ∧
        (label = [] ↔ (normalize "A.test.com.".toList).head? = some '.') :=
  ⟨{ names := ⟨certified 1, ⟨[(⟨"*.test.com"⟩, certified 2)]⟩⟩ }, rfl, rfl,
    (match_fits_name testDomain _ rfl "A.test.com.").1 _ rfl⟩

/-- A name that begins with a dot is served by a wildcard without any label in front of its parent, and the
wildcard's own text is an exact match. -/
theorem wildcard_serves_empty_label :
    ∃ r, ofBuilder (Names.RegistryBuilder.run {} testDomain) = .ok r ∧
      (r.lookup (some ".test.com")).matched = .wildcard ⟨"*.test.com"⟩ ∧
      (∀ label parent, "*.test.com".toList = '*' :: '.' :: parent →
        normalize ".test.com".toList = label ++ '.' :: parent → label = []) ∧
      (r.lookup (some "*.test.com")).matched = .exact ⟨"*.test.com"⟩ ∧
      Pattern.isWildcard ⟨"*.test.com"⟩ = true := by
  refine ⟨{ names := ⟨certified 1, ⟨[(⟨"*.test.com"⟩, certified 2)]⟩⟩ }, rfl, rfl, ?_, rfl, by decide⟩
  intro label parent pattern name
  obtain rfl : "test.com".toList = parent := by simpa using pattern
  have normal : normalize ".test.com".toList = [] ++ '.' :: "test.com".toList := by decide
  exact (List.append_cancel_right (normal.symm.trans name)).symm

end StreamHost.Tls.Registry
