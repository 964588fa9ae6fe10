import Mathlib.Data.List.DropRight
import StreamHost.Proofs.WildcardLabels

/-!
Names in normal form. White space around a name goes first, then the dots at its end, then its capital
letters; nobody looks for white space again once the dots are gone. So white space in front of those dots
stays, at the end of the normal form, and such a form is no normal form of itself: the text of the pattern
means a shorter one, or none. Every other pattern is read again from its text.
-/

namespace StreamHost.Text

variable {cs u v : List Char} {c : Char}

def startsBlank (cs : List Char) : Bool := cs.head?.any isBlank

def endsBlank (cs : List Char) : Bool := cs.getLast?.any isBlank

/-! ## Lower case -/

theorem toLower_ofNat : ∀ n < 26, (Char.ofNat (65 + n)).toLower = Char.ofNat (97 + n) := by
  decide

/-- Only the capital letters of ASCII have another lower case. -/
theorem toLower_cases (c : Char) :
    c.toLower = c ∨ ∃ n < 26, c = Char.ofNat (65 + n) ∧ c.toLower = Char.ofNat (97 + n) := by
  by_cases capital : c.val ≥ 'A'.val ∧ c.val ≤ 'Z'.val
  · right
    have low : 65 ≤ c.toNat := capital.1
    have high : c.toNat ≤ 90 := capital.2
    have own : c = Char.ofNat (65 + (c.toNat - 65)) := by
      rw [Nat.add_sub_cancel' low, Char.ofNat_toNat]
    have inside : c.toNat - 65 < 26 := by omega
    exact ⟨c.toNat - 65, inside, own, (congrArg Char.toLower own).trans (toLower_ofNat _ inside)⟩
  · left
    exact dif_neg capital

theorem toLower_toLower (c : Char) : c.toLower.toLower = c.toLower := by
  have lower : ∀ n < 26, (Char.ofNat (97 + n)).toLower = Char.ofNat (97 + n) := by decide
  rcases toLower_cases c with same | ⟨n, inside, -, small⟩
  · rw [same, same]
  · rw [small, lower n inside]

/-- Letters are not white space, whatever their case. -/
theorem isBlank_toLower (c : Char) : isBlank c.toLower = isBlank c := by
  have letters : ∀ n < 26, isBlank (Char.ofNat (65 + n)) = isBlank (Char.ofNat (97 + n)) := by decide
  rcases toLower_cases c with same | ⟨n, inside, capital, small⟩
  · rw [same]
  · rw [small, capital, letters n inside]

theorem toLower_eq_dot_iff : c.toLower = '.' ↔ c = '.' := by
  have letters : ∀ n < 26, Char.ofNat (65 + n) ≠ '.' ∧ Char.ofNat (97 + n) ≠ '.' := by decide
  rcases toLower_cases c with same | ⟨n, inside, capital, small⟩
  · rw [same]
  · rw [small, capital]
    exact iff_of_false (letters n inside).2 (letters n inside).1

@[simp] theorem startsBlank_map_toLower : startsBlank (cs.map Char.toLower) = startsBlank cs := by
  simp [startsBlank, Option.any_map, isBlank_toLower]

@[simp] theorem endsBlank_map_toLower : endsBlank (cs.map Char.toLower) = endsBlank cs := by
  simp [endsBlank, Option.any_map, isBlank_toLower]

/-! ## Trimming -/

theorem rdropWhile_eq_self_iff_getLast? {p : Char → Bool} :
    cs.rdropWhile p = cs ↔ cs.getLast?.any p = false := by
  rw [List.rdropWhile_eq_self_iff]
  rcases List.eq_nil_or_concat cs with rfl | ⟨front, last, rfl⟩ <;> simp

theorem trimStart_eq_self_iff : trimStart cs = cs ↔ startsBlank cs = false := by
  cases cs <;> simp [trimStart, startsBlank, List.dropWhile_eq_self_iff]

theorem trimEnd_eq_self_iff : trimEnd cs = cs ↔ endsBlank cs = false :=
  rdropWhile_eq_self_iff_getLast?

/-- What is at the start of a text is there still when its end is cut off. -/
theorem startsBlank_of_prefix (front : u <+: v) (bare : startsBlank v = false) :
    startsBlank u = false := by
  obtain ⟨rest, rfl⟩ := front
  cases u with
  | nil => rfl
  | cons c cs => exact bare

theorem endsBlank_concat (cs : List Char) (c : Char) : endsBlank (cs ++ [c]) = isBlank c := by
  simp [endsBlank]

theorem startsBlank_trim (cs : List Char) : startsBlank (trim cs) = false :=
  startsBlank_of_prefix (List.rdropWhile_prefix isBlank (trimStart cs))
    (trimStart_eq_self_iff.mp (List.dropWhile_idempotent isBlank cs))

theorem endsBlank_trim (cs : List Char) : endsBlank (trim cs) = false :=
  trimEnd_eq_self_iff.mp (List.rdropWhile_idempotent isBlank (trimStart cs))

theorem trim_eq_self_iff : trim cs = cs ↔ startsBlank cs = false ∧ endsBlank cs = false := by
  constructor
  · intro same
    rw [← same]
    exact ⟨startsBlank_trim cs, endsBlank_trim cs⟩
  · rintro ⟨start, stop⟩
    rw [trim, trimStart_eq_self_iff.mpr start, trimEnd_eq_self_iff.mpr stop]

theorem trim_infix (cs : List Char) : trim cs <:+: cs :=
  (List.rdropWhile_prefix isBlank (trimStart cs)).isInfix.trans (List.dropWhile_suffix isBlank).isInfix

/-- White space around a text that has none at its ends is all that trimming takes off. -/
theorem trim_padded (before : ∀ c ∈ u, isBlank c = true) (after : ∀ c ∈ v, isBlank c = true)
    (start : startsBlank cs = false) (stop : endsBlank cs = false) : trim (u ++ cs ++ v) = cs := by
  have front : trimStart (u ++ cs ++ v) = trimStart (cs ++ v) := by
    rw [List.append_assoc]
    exact List.dropWhile_append_of_pos before
  have back : trimEnd (cs ++ v) = trimEnd cs := by
    have reversed : ∀ c ∈ v.reverse, isBlank c = true := by simpa using after
    rw [trimEnd, List.reverse_append, List.dropWhile_append_of_pos reversed, trimEnd]
  cases cs with
  | nil =>
    have none : trimStart v = [] := List.dropWhile_eq_nil_iff.mpr after
    rw [trim, front, List.nil_append, none]
    rfl
  | cons c cs =>
    have kept : trimStart (c :: cs ++ v) = c :: cs ++ v := trimStart_eq_self_iff.mpr start
    rw [trim, front, kept, back, trimEnd_eq_self_iff.mpr stop]

/-- What trimming takes off is white space. -/
theorem exists_trim (cs : List Char) : ∃ u v, cs = u ++ trim cs ++ v ∧
    (∀ c ∈ u, isBlank c = true) ∧ ∀ c ∈ v, isBlank c = true := by
  refine ⟨cs.takeWhile isBlank, (trimStart cs).rtakeWhile isBlank, ?_,
    fun c => List.mem_takeWhile_imp, fun c => List.mem_rtakeWhile_imp⟩
  have back : trim cs ++ (trimStart cs).rtakeWhile isBlank = trimStart cs :=
    List.rdropWhile_append_rtakeWhile
  rw [List.append_assoc, back]
  exact List.takeWhile_append_dropWhile.symm

end StreamHost.Text

namespace StreamHost.Names

open Text (isBlank trim startsBlank endsBlank)

variable {name raw : List Char} {c : Char} {n : Nat}

/-! ## Normal forms -/

theorem normalize_eq (name : List Char) :
    normalize name = ((trim name).rdropWhile (· == '.')).map Char.toLower := rfl

/-- What every normal form is like. Nothing is said about white space at its end. -/
structure Reduced (name : List Char) : Prop where
  start : startsBlank name = false
  dots : name.getLast? ≠ some '.'
  lower : ∀ c ∈ name, c.toLower = c

theorem reduced_normalize (raw : List Char) : Reduced (normalize raw) where
  start := by
    rw [normalize_eq, Text.startsBlank_map_toLower]
    exact Text.startsBlank_of_prefix (List.rdropWhile_prefix _ _) (Text.startsBlank_trim raw)
  dots := by
    rw [normalize_eq, List.getLast?_map]
    intro last
    obtain ⟨c, ends, dot⟩ := Option.map_eq_some_iff.mp last
    obtain rfl := Text.toLower_eq_dot_iff.mp dot
    have bare := Text.rdropWhile_eq_self_iff_getLast?.mp
      (List.rdropWhile_idempotent (· == '.') (trim raw))
    rw [ends] at bare
    cases bare
  lower c member := by
    obtain ⟨d, -, rfl⟩ := List.mem_map.mp member
    exact Text.toLower_toLower d

/-- Nothing is taken off a name that does not end in a dot. -/
theorem rdropWhile_eq_self_of_undotted (undotted : name.getLast? ≠ some '.') :
    name.rdropWhile (· == '.') = name := by
  rw [Text.rdropWhile_eq_self_iff_getLast?]
  cases ends : name.getLast? with
  | none => rfl
  | some c => simpa [ends] using undotted

/-- A reduced name is its own normal form unless it ends in white space. -/
theorem normalize_of_reduced (reduced : Reduced name) (stop : endsBlank name = false) :
    normalize name = name := by
  rw [normalize_eq, Text.trim_eq_self_iff.mpr ⟨reduced.start, stop⟩, rdropWhile_eq_self_of_undotted reduced.dots]
  exact (List.map_congr_left reduced.lower).trans (List.map_id' name)

theorem length_normalize_le (name : List Char) : (normalize name).length ≤ (trim name).length := by
  rw [normalize_eq, List.length_map]
  exact (List.rdropWhile_prefix _ _).length_le

/-- A name that ends in white space has a shorter normal form. -/
theorem length_normalize_lt (blank : endsBlank name = true) : (normalize name).length < name.length := by
  refine Nat.lt_of_le_of_lt (length_normalize_le name) ?_
  refine Nat.lt_of_le_of_ne (Text.trim_infix name).length_le fun same => ?_
  have kept : trim name = name := (Text.trim_infix name).eq_of_length same
  rw [(Text.trim_eq_self_iff.mp kept).2] at blank
  cases blank

/-! ## White space in front of dots -/

/-- Something that is not white space, then white space, then dots; more white space may follow. -/
def BlankBeforeDots (raw : List Char) : Prop :=
  ∃ front c n v, raw = front ++ c :: List.replicate (n + 1) '.' ++ v ∧ isBlank c = true ∧
    (∃ d ∈ front, isBlank d = false) ∧ ∀ d ∈ v, isBlank d = true

theorem concat_dots (front : List Char) (c : Char) (n : Nat) :
    front ++ c :: List.replicate (n + 1) '.' = (front ++ c :: List.replicate n '.') ++ ['.'] := by
  simp [List.replicate_succ']

theorem rdropWhile_dots (front : List Char) (n : Nat) (other : c ≠ '.') :
    (front ++ c :: List.replicate n '.').rdropWhile (· == '.') = front ++ [c] := by
  induction n with
  | zero => simp [other]
  | succ n ih => rw [concat_dots, List.rdropWhile_concat_pos _ _ _ (by simp), ih]

/-- Where white space stands in front of dots, trimming leaves it there. -/
theorem trim_of_blankBeforeDots (hidden : BlankBeforeDots raw) :
    ∃ front c n, trim raw = front ++ c :: List.replicate (n + 1) '.' ∧ isBlank c = true := by
  obtain ⟨front, c, n, v, rfl, blank, ⟨d, member, solid⟩, after⟩ := hidden
  have split : front = front.takeWhile isBlank ++ Text.trimStart front :=
    List.takeWhile_append_dropWhile.symm
  have whole : front ++ c :: List.replicate (n + 1) '.' ++ v =
      front.takeWhile isBlank ++ (Text.trimStart front ++ c :: List.replicate (n + 1) '.') ++ v := by
    conv_lhs => rw [split]
    simp
  refine ⟨Text.trimStart front, c, n, ?_, blank⟩
  rw [whole]
  refine Text.trim_padded (fun c => List.mem_takeWhile_imp) after ?_ ?_
  · have bare : startsBlank (Text.trimStart front) = false :=
      Text.trimStart_eq_self_iff.mp (List.dropWhile_idempotent isBlank front)
    cases shown : Text.trimStart front with
    | nil =>
      rw [List.dropWhile_eq_nil_iff.mp shown d member] at solid
      cases solid
    | cons e rest => rwa [shown] at bare
  · rw [concat_dots, Text.endsBlank_concat]
    decide

/-- The normal form ends in white space exactly where white space stands in front of dots. -/
theorem endsBlank_normalize_iff : endsBlank (normalize raw) = true ↔ BlankBeforeDots raw := by
  rw [normalize_eq, Text.endsBlank_map_toLower]
  constructor
  · intro blank
    have split : (trim raw).rdropWhile (· == '.') ++ (trim raw).rtakeWhile (· == '.') = trim raw :=
      List.rdropWhile_append_rtakeWhile
    have dots : (trim raw).rtakeWhile (· == '.') =
        List.replicate ((trim raw).rtakeWhile (· == '.')).length '.' :=
      List.eq_replicate_of_mem fun c member => by simpa using List.mem_rtakeWhile_imp member
    rcases List.eq_nil_or_concat' ((trim raw).rdropWhile (· == '.')) with none | ⟨front, c, shown⟩
    · rw [none] at blank
      cases blank
    · rw [shown, Text.endsBlank_concat] at blank
      obtain ⟨u, v, whole, -, after⟩ := Text.exists_trim raw
      have start := Text.startsBlank_trim raw
      have stop := Text.endsBlank_trim raw
      rw [shown, dots] at split
      generalize ((trim raw).rtakeWhile (· == '.')).length = count at split
      rw [← split] at whole start stop
      cases count with
      | zero => simp [Text.endsBlank_concat, blank] at stop
      | succ n =>
        cases front with
        | nil => simp [startsBlank, blank] at start
        | cons d front =>
          have solid : isBlank d = false := by simpa [startsBlank] using start
          exact ⟨u ++ d :: front, c, n, v, by simpa using whole, blank, ⟨d, by simp, solid⟩, after⟩
  · intro hidden
    obtain ⟨front, c, n, shown, blank⟩ := trim_of_blankBeforeDots hidden
    have other : c ≠ '.' := by
      rintro rfl
      exact absurd blank (by decide)
    rw [shown, rdropWhile_dots front (n + 1) other, Text.endsBlank_concat]
    exact blank

/-! ## Reading a pattern again -/

namespace Pattern

variable {text other : String} {p q : Pattern}

theorem toList_text (read : parse text = .ok p) : p.text.toList = normalize text.toList := by
  rw [parse_text read, String.toList_ofList]

/-- A text that is in normal form and means a pattern is the text of that pattern. -/
theorem parse_of_normal (read : parse text = .ok p) (normal : normalize p.text.toList = p.text.toList) :
    parse p.text = .ok p := by
  rw [parse_eq_ok_iff] at read ⊢
  obtain ⟨same, rest⟩ := read
  have own : normalize p.text.toList = normalize text.toList := by
    rw [normal, same, String.toList_ofList]
  rw [own]
  exact ⟨same, rest⟩

/-- The normal form of a pattern's text is that text, unless white space stood in front of dots. -/
theorem normalize_text_iff (read : parse text = .ok p) :
    normalize p.text.toList = p.text.toList ↔ ¬ BlankBeforeDots text.toList := by
  rw [toList_text read, ← endsBlank_normalize_iff]
  constructor
  · intro same blank
    exact Nat.ne_of_lt (length_normalize_lt blank) (congrArg List.length same)
  · intro bare
    exact normalize_of_reduced (reduced_normalize _) (Bool.eq_false_iff.mpr bare)

theorem parse_text_iff (read : parse text = .ok p) :
    parse p.text = .ok p ↔ ¬ BlankBeforeDots text.toList := by
  rw [← normalize_text_iff read]
  constructor
  · intro again
    exact (toList_text again).symm
  · exact parse_of_normal read

/-- A pattern is read again from its text if and only if its own source had no white space in front of the
dots at its end. Where it had some, the text means a shorter pattern or none at all. So of two patterns
that are not the same one is written like the other only if such white space is in the source of one. -/
theorem text_means_pattern_iff (raw : String) (p : Pattern) (read : parse raw = .ok p) :
    (parse p.text = .ok p ↔ ¬ BlankBeforeDots raw.toList) ∧
    (∀ q, parse p.text = .ok q → q ≠ p → q.text.toList.length < p.text.toList.length) ∧
    ∀ other q, parse other = .ok q → parse p.text = .ok q ∨ parse q.text = .ok p →
      p = q ∨ BlankBeforeDots raw.toList ∨ BlankBeforeDots other.toList := by
  refine ⟨parse_text_iff read, fun q again different => ?_, fun other q means spells => ?_⟩
  · have hidden : endsBlank p.text.toList = true := by
      refine Decidable.byContradiction fun bare => different ?_
      rw [toList_text read, endsBlank_normalize_iff] at bare
      exact Except.ok.inj (again.symm.trans ((parse_text_iff read).mpr bare))
    rw [toList_text again]
    exact length_normalize_lt hidden
  · by_cases own : BlankBeforeDots raw.toList
    · exact .inr (.inl own)
    · by_cases theirs : BlankBeforeDots other.toList
      · exact .inr (.inr theirs)
      · have first := (parse_text_iff read).mpr own
        have second := (parse_text_iff means).mpr theirs
        cases spells with
        | inl spells => exact .inl (Except.ok.inj (first.symm.trans spells))
        | inr spells => exact .inl (Except.ok.inj (spells.symm.trans second))

/-- A wildcard in capital letters, with white space around it and a dot at its end. -/
theorem text_means_wildcard : parse " *.Test.COM. " = .ok ⟨"*.test.com"⟩ ∧
    ¬ BlankBeforeDots " *.Test.COM. ".toList ∧ parse "*.test.com" = .ok ⟨"*.test.com"⟩ := by
  have read : parse " *.Test.COM. " = .ok ⟨"*.test.com"⟩ := by decide
  have again : parse "*.test.com" = .ok ⟨"*.test.com"⟩ := by decide
  exact ⟨read, (text_means_pattern_iff _ _ read).1.mp again, again⟩

/-- The text of a pattern means another pattern, and the text of another one means none. -/
theorem blank_stays_in_front_of_dots :
    (parse "a ." = .ok ⟨"a "⟩ ∧ parse "a " = .ok ⟨"a"⟩) ∧
      parse "*. ." = .ok ⟨"*. "⟩ ∧ parse "*. " = .error (.misplacedWildcard "*. ") := by
  decide

end Pattern

end StreamHost.Names
