import StreamHost.Proofs.NormalForms
import StreamHost.Proofs.SettingsChecks
import StreamHost.Proofs.SettingsReports
import StreamHost.Tls.Registry

/-!
Spellings of one name. White space around a name, dots at its end and the case of its letters make no
difference to its normal form, and patterns, registries and the checks on settings see nothing of a name
but its normal form. So a name can be spelled one way where its configuration is added, another way where
it is looked up, and a third way in the settings.
-/

namespace StreamHost.Text

theorem toUpper_ofNat : ∀ n < 26, (Char.ofNat (97 + n)).toUpper = Char.ofNat (65 + n) := by
  decide

/-- Only the small letters of ASCII have another upper case. -/
theorem toUpper_cases (c : Char) :
    c.toUpper = c ∨ ∃ n < 26, c = Char.ofNat (97 + n) ∧ c.toUpper = Char.ofNat (65 + n) := by
  by_cases small : c.val ≥ 'a'.val ∧ c.val ≤ 'z'.val
  · right
    have low : 97 ≤ c.toNat := small.1
    have high : c.toNat ≤ 122 := small.2
    have own : c = Char.ofNat (97 + (c.toNat - 97)) := by
      rw [Nat.add_sub_cancel' low, Char.ofNat_toNat]
    have inside : c.toNat - 97 < 26 := by omega
    exact ⟨c.toNat - 97, inside, own, (congrArg Char.toUpper own).trans (toUpper_ofNat _ inside)⟩
  · left
    exact dif_neg small

theorem toLower_toUpper (c : Char) : c.toUpper.toLower = c.toLower := by
  have lower : ∀ n < 26, (Char.ofNat (97 + n)).toLower = Char.ofNat (97 + n) := by decide
  rcases toUpper_cases c with same | ⟨n, inside, small, capital⟩
  · rw [same]
  · rw [capital, toLower_ofNat n inside, small, lower n inside]

/-- The same character, but for its case if it is a letter of ASCII. -/
def Recased (c d : Char) : Prop := d = c ∨ d = c.toLower ∨ d = c.toUpper

instance (c d : Char) : Decidable (Recased c d) := inferInstanceAs (Decidable (_ ∨ _))

theorem Recased.toLower_eq {c d : Char} (recased : Recased c d) : d.toLower = c.toLower := by
  rcases recased with rfl | rfl | rfl
  · rfl
  · exact toLower_toLower c
  · exact toLower_toUpper c

variable {cs ds : List Char}

theorem map_toLower_eq (recased : List.Forall₂ Recased cs ds) :
    ds.map Char.toLower = cs.map Char.toLower := by
  induction recased with
  | nil => rfl
  | cons first _ ih => rw [List.map_cons, List.map_cons, first.toLower_eq, ih]

theorem startsBlank_append (front : startsBlank cs = false) (back : startsBlank ds = false) :
    startsBlank (cs ++ ds) = false := by
  cases cs with
  | nil => exact back
  | cons c cs => exact front

theorem endsBlank_append (front : endsBlank cs = false) (back : endsBlank ds = false) :
    endsBlank (cs ++ ds) = false := by
  rcases List.eq_nil_or_concat' ds with rfl | ⟨ds, d, rfl⟩
  · rwa [List.append_nil]
  · rw [← List.append_assoc, endsBlank_concat]
    rwa [endsBlank_concat] at back

theorem startsBlank_dots (n : Nat) : startsBlank (List.replicate n '.') = false := by
  cases n with
  | zero => rfl
  | succ n => exact (by decide : isBlank '.' = false)

theorem endsBlank_dots (n : Nat) : endsBlank (List.replicate n '.') = false := by
  cases n with
  | zero => rfl
  | succ n =>
    rw [List.replicate_succ', endsBlank_concat]
    decide

end StreamHost.Text

namespace StreamHost.Names

open Text (isBlank trim startsBlank endsBlank Recased)

variable {name other u v : List Char}

/-! ## One normal form for all spellings -/

theorem rdropWhile_append_dots (cs : List Char) (n : Nat) :
    (cs ++ List.replicate n '.').rdropWhile (· == '.') = cs.rdropWhile (· == '.') := by
  induction n with
  | zero => rw [List.replicate_zero, List.append_nil]
  | succ n ih =>
    rw [List.replicate_succ', ← List.append_assoc, List.rdropWhile_concat_pos _ _ _ (by simp), ih]

/-- A name with nothing to take off: no white space at its ends and no dot at its end. -/
structure Bare (name : List Char) : Prop where
  start : startsBlank name = false
  stop : endsBlank name = false
  dots : name.getLast? ≠ some '.'

theorem Bare.normalize_padded (bare : Bare name) (n : Nat) (before : ∀ c ∈ u, isBlank c = true)
    (after : ∀ c ∈ v, isBlank c = true) :
    normalize (u ++ (name ++ List.replicate n '.') ++ v) = name.map Char.toLower := by
  have trimmed : trim (u ++ (name ++ List.replicate n '.') ++ v) = name ++ List.replicate n '.' :=
    Text.trim_padded before after (Text.startsBlank_append bare.start (Text.startsBlank_dots n))
      (Text.endsBlank_append bare.stop (Text.endsBlank_dots n))
  rw [normalize_eq, trimmed, rdropWhile_append_dots, rdropWhile_eq_self_of_undotted bare.dots]

theorem Bare.recased (bare : Bare name) (recased : List.Forall₂ Recased name other) : Bare other := by
  have same := Text.map_toLower_eq recased
  refine ⟨?_, ?_, fun last => ?_⟩
  · rw [← Text.startsBlank_map_toLower, same, Text.startsBlank_map_toLower]
    exact bare.start
  · rw [← Text.endsBlank_map_toLower, same, Text.endsBlank_map_toLower]
    exact bare.stop
  · have lowered : (name.map Char.toLower).getLast? = some '.' := by
      rw [← same, List.getLast?_map, last]
      rfl
    rw [List.getLast?_map] at lowered
    obtain ⟨c, ends, dot⟩ := Option.map_eq_some_iff.mp lowered
    obtain rfl := Text.toLower_eq_dot_iff.mp dot
    exact bare.dots ends

/-- `text` spells `name`: in any case, with dots behind it, and with white space around all that. -/
def Spelling (name text : List Char) : Prop :=
  ∃ u other n v, text = u ++ other ++ List.replicate n '.' ++ v ∧ List.Forall₂ Recased name other ∧
    (∀ c ∈ u, isBlank c = true) ∧ ∀ c ∈ v, isBlank c = true

/-- White space around it, dots at its end and the case of its letters do not matter to a name. -/
theorem normalize_of_spelling {text : List Char} (bare : Bare name) (spelling : Spelling name text) :
    normalize text = normalize name := by
  obtain ⟨u, other, n, v, rfl, recased, before, after⟩ := spelling
  have plain := bare.normalize_padded (u := []) (v := []) 0 (by simp) (by simp)
  simp only [List.replicate_zero, List.append_nil, List.nil_append] at plain
  rw [List.append_assoc u, (bare.recased recased).normalize_padded n before after,
    Text.map_toLower_eq recased, plain]

/-! ## Names with the same normal form -/

variable {α : Type} {h k : String} {p : Pattern}

theorem Pattern.parse_eq_ok_iff_of_normalize_eq (same : normalize h.toList = normalize k.toList) :
    Pattern.parse h = .ok p ↔ Pattern.parse k = .ok p := by
  rw [Pattern.parse_eq_ok_iff, Pattern.parse_eq_ok_iff, same]

theorem Registry.lookup_of_normalize_eq (same : normalize h.toList = normalize k.toList)
    (r : Registry α) : r.lookup (some h) = r.lookup (some k) := by
  unfold lookup
  rw [Option.map_some, Option.map_some, same]

/-- An entry takes the place of the one that was set before for the same pattern. -/
theorem Entries.insert_insert (es : Entries α) (p : Pattern) (x y : α) :
    (es.insert p x).insert p y = es.insert p y := by
  simp [insert]

theorem Entries.size_insert (es : Entries α) (p : Pattern) (x y : α) :
    (es.insert p x).size = (es.insert p y).size := by
  simp [insert, size]

theorem RegistryBuilder.add_eq_ok_iff {b c : RegistryBuilder α} {x : α} : b.add h x = .ok c ↔
    ∃ p, Pattern.parse h = .ok p ∧ c = { b with entries := b.entries.insert p x } := by
  rw [add_eq]
  cases Pattern.parse h <;> simp [Except.map, eq_comm]

end StreamHost.Names

namespace StreamHost

open Names (Pattern normalize)
open Text (isBlank startsBlank endsBlank Recased)
open Config (Rule reportsOn duplicateText)

variable {h k : String}

/-- Wherever names are used, `k` means what `h` means. -/
structure MeansSame (h k : String) : Prop where
  /-- Both are the same pattern, or neither is one. -/
  pattern : (∃ p, Pattern.parse h = .ok p ∧ Pattern.parse k = .ok p) ∨
    ∃ e e', Pattern.parse h = .error e ∧ Pattern.parse k = .error e'
  /-- Every registry answers both with the same configuration, for the same reason. -/
  lookup : ∀ r : Tls.Registry, r.lookup (some k) = r.lookup (some h)
  /-- A configuration is added under one as under the other. -/
  adds : ∀ (b c : Tls.RegistryBuilder) x, b.add k x = .ok c ↔ b.add h x = .ok c
  /-- What is added under the other takes the place of what was added under one. -/
  replaces : ∀ (b c : Tls.RegistryBuilder) x y, b.add h x = .ok c →
    ∃ d, c.add k y = .ok d ∧ b.add k y = .ok d ∧ d.entries.size = c.entries.size
  /-- The later of two entries with these domains is reported as a repetition, if they are patterns. -/
  repeats : ∀ (c : Config.Server) i j p, i < j → c.domains[i]? = some h → c.domains[j]? = some k →
    Pattern.parse h = .ok p →
      reportsOn (Config.validate c) (.domain j) = [⟨(Rule.domain j).field, duplicateText p⟩]
  /-- If they are none, both entries are reported as malformed. -/
  malformed : ∀ (c : Config.Server) i j e, c.domains[i]? = some h → c.domains[j]? = some k →
    Pattern.parse h = .error e → ∃ e', Pattern.parse k = .error e' ∧
      reportsOn (Config.validate c) (.domain i) = [⟨(Rule.domain i).field, e.toError.message⟩] ∧
      reportsOn (Config.validate c) (.domain j) = [⟨(Rule.domain j).field, e'.toError.message⟩]

theorem parse_refused (same : normalize h.toList = normalize k.toList) {e : Names.PatternError}
    (refused : Pattern.parse h = .error e) : ∃ e', Pattern.parse k = .error e' := by
  cases read : Pattern.parse k with
  | error e' => exact ⟨e', rfl⟩
  | ok p => cases refused.symm.trans ((Pattern.parse_eq_ok_iff_of_normalize_eq same).mpr read)

/-- What names mean depends on their normal forms alone. -/
theorem meansSame_of_normalize_eq (same : normalize h.toList = normalize k.toList) : MeansSame h k where
  pattern := by
    cases read : Pattern.parse h with
    | ok p => exact .inl ⟨p, rfl, (Pattern.parse_eq_ok_iff_of_normalize_eq same).mp read⟩
    | error e =>
      obtain ⟨e', refused⟩ := parse_refused same read
      exact .inr ⟨e, e', rfl, refused⟩
  lookup r := (Names.Registry.lookup_of_normalize_eq same r.names).symm
  adds b c x := by
    simp only [Names.RegistryBuilder.add_eq_ok_iff, Pattern.parse_eq_ok_iff_of_normalize_eq same]
  replaces b c x y added := by
    obtain ⟨p, read, rfl⟩ := Names.RegistryBuilder.add_eq_ok_iff.mp added
    have other := (Pattern.parse_eq_ok_iff_of_normalize_eq same).mp read
    refine ⟨{ b with entries := b.entries.insert p y }, ?_, ?_, Names.Entries.size_insert b.entries p y x⟩
    · refine Names.RegistryBuilder.add_eq_ok_iff.mpr ⟨p, other, ?_⟩
      rw [Names.Entries.insert_insert]
    · exact Names.RegistryBuilder.add_eq_ok_iff.mpr ⟨p, other, rfl⟩
  repeats c i j p early first second read := by
    rw [Config.validate_eq]
    refine Config.reportsOn_eq (Config.DomainFlaw.duplicate second ?_ ⟨i, early, h, first, read⟩)
    exact (Pattern.parse_eq_ok_iff_of_normalize_eq same).mp read
  malformed c i j e first second refused := by
    obtain ⟨e', refused'⟩ := parse_refused same refused
    rw [Config.validate_eq]
    exact ⟨e', refused', Config.reportsOn_eq (Config.DomainFlaw.malformed first refused),
      Config.reportsOn_eq (Config.DomainFlaw.malformed second refused')⟩

/-- A name without white space at its ends and without a dot at its end means the same however it is spelled:
with its letters in another case, with dots behind it and with white space around it. -/
theorem respelled_name_means_same (name text text' : List Char) (start : startsBlank name = false)
    (stop : endsBlank name = false) (dots : name.getLast? ≠ some '.') (spelling : Names.Spelling name text)
    (spelling' : Names.Spelling name text') :
    MeansSame (.ofList name) (.ofList text) ∧ MeansSame (.ofList text) (.ofList name) ∧
      MeansSame (.ofList text) (.ofList text') := by
  have same : normalize text = normalize name := Names.normalize_of_spelling ⟨start, stop, dots⟩ spelling
  have same' : normalize text' = normalize name := Names.normalize_of_spelling ⟨start, stop, dots⟩ spelling'
  refine ⟨meansSame_of_normalize_eq ?_, meansSame_of_normalize_eq ?_, meansSame_of_normalize_eq ?_⟩
  · rw [String.toList_ofList, String.toList_ofList, same]
  · rw [String.toList_ofList, String.toList_ofList, same]
  · rw [String.toList_ofList, String.toList_ofList, same, same']

/-- A wildcard, and the same one in capital letters with two dots and white space. -/
theorem loud_wildcard_means_same :
    MeansSame "*.test.com" "\t *.TEST.com..\u00a0" ∧ MeansSame "\t *.TEST.com..\u00a0" "*.Test.com." := by
  have loud : Names.Spelling "*.test.com".toList "\t *.TEST.com..\u00a0".toList :=
    ⟨['\t', ' '], "*.TEST.com".toList, 2, ['\u00a0'], by decide, by decide,
      List.all_eq_true.mp (by decide), List.all_eq_true.mp (by decide)⟩
  have dotted : Names.Spelling "*.test.com".toList "*.Test.com.".toList :=
    ⟨[], "*.Test.com".toList, 1, [], by decide, by decide, by simp, by simp⟩
  have all := respelled_name_means_same _ _ _ (by decide) (by decide) (by decide) loud dotted
  simp only [String.ofList_toList] at all
  exact ⟨all.1, all.2.2⟩

end StreamHost
