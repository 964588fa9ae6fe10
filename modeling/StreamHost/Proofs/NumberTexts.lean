import Mathlib.Data.Nat.Digits.Defs
import StreamHost.Text.Reader

/-!
Numbers that are written are read again. The digits of a number, whatever follows them, give its value,
their count is that of the written form, and only zero begins with a zero; so every format takes the
numbers below its bound that it has digits enough for.
-/

namespace StreamHost.Text

variable {base n d : Nat} {rest : List Char}

theorem digitValue?_digitChar (small : base ≤ 16) (below : d < base) :
    digitValue? base (Nat.digitChar d) = some d := by
  have every : ∀ b : Fin 17, ∀ e : Fin 16, e.val < b.val →
      digitValue? b.val (Nat.digitChar e.val) = some e.val := by decide
  exact every ⟨base, by omega⟩ ⟨d, by omega⟩ below

/-- No digit is at the front. -/
def Halts (base : Nat) (rest : List Char) : Prop := digitRun base rest = ([], rest)

theorem halts_nil : Halts base [] := rfl

theorem halts_cons {c : Char} (other : digitValue? base c = none) : Halts base (c :: rest) := by
  simp [Halts, digitRun, other]

/-- A digit of a smaller base is the same digit of a larger one. -/
theorem digitValue?_mono {larger v : Nat} {c : Char} (le : base ≤ larger)
    (digit : digitValue? base c = some v) : digitValue? larger c = some v := by
  simp only [digitValue?, Option.ite_none_right_eq_some] at digit ⊢
  obtain ⟨below, value⟩ := digit
  -- A character that is no digit in any base has the base itself as its value.
  split at below <;> rename_i numeral
  · rw [if_pos numeral] at value ⊢
    exact ⟨by omega, value⟩
  · rw [if_neg numeral] at value ⊢
    split at below <;> rename_i lower
    · rw [if_pos lower] at value ⊢
      exact ⟨by omega, value⟩
    · rw [if_neg lower] at value ⊢
      split at below <;> rename_i upper
      · rw [if_pos upper] at value ⊢
        exact ⟨by omega, value⟩
      · omega

theorem Halts.mono {larger : Nat} (le : base ≤ larger) (halts : Halts larger rest) : Halts base rest := by
  cases rest with
  | nil => exact halts_nil
  | cons c cs =>
    refine halts_cons ?_
    cases digit : digitValue? base c with
    | none => rfl
    | some v => simp [Halts, digitRun, digitValue?_mono le digit] at halts

/-- The digits of a written number, as values: they are all read, and with them whatever digits follow. -/
structure Spells (base n : Nat) (ds : List Nat) : Prop where
  reads : ∀ rest, digitRun base (Nat.toDigits base n ++ rest) =
    (ds ++ (digitRun base rest).1, (digitRun base rest).2)
  value : ofDigits base ds = n
  length : ds.length = (Nat.toDigits base n).length
  leads : ds.head? = some 0 → n = 0

theorem Spells.ne_nil {ds : List Nat} (spells : Spells base n ds) : ds ≠ [] := by
  rintro rfl
  exact Nat.toDigits_ne_nil (List.length_eq_zero_iff.mp spells.length.symm)

theorem spells_digit (small : base ≤ 16) (below : n < base) : Spells base n [n] where
  reads rest := by
    simp [Nat.toDigits_of_lt_base below, digitRun, digitValue?_digitChar small below]
  value := by simp [ofDigits]
  length := by simp [Nat.toDigits_of_lt_base below]
  leads zero := Option.some.inj zero

/-- One more digit goes behind the others, as in writing. -/
theorem Spells.concat {ds : List Nat} (large : 1 < base) (small : base ≤ 16) (above : base ≤ n)
    (front : Spells base (n / base) ds) : Spells base n (ds ++ [n % base]) := by
  have positive : 0 < base := by omega
  have written : Nat.toDigits base n = Nat.toDigits base (n / base) ++ [Nat.digitChar (n % base)] := by
    rw [Nat.toDigits_eq_if large, if_neg (Nat.not_lt.mpr above)]
  have last := digitValue?_digitChar small (Nat.mod_lt n positive)
  refine ⟨fun rest => ?_, ?_, ?_, fun zero => ?_⟩
  · simp [written, front.reads, digitRun, last]
  · have value : ds.foldl (fun n d => n * base + d) 0 = n / base := front.value
    simp only [ofDigits, List.foldl_append, value, List.foldl_cons, List.foldl_nil]
    exact Nat.div_add_mod' n base
  · simp [written, front.length]
  · have first : ds.head? = some 0 := by
      obtain ⟨e, es, rfl⟩ := List.exists_cons_of_ne_nil front.ne_nil
      exact zero
    have nothing := front.leads first
    have something := Nat.div_pos above positive
    omega

theorem exists_spells (large : 1 < base) (small : base ≤ 16) (n : Nat) : ∃ ds, Spells base n ds := by
  induction n using Nat.strongRecOn with
  | ind n ih =>
    by_cases below : n < base
    · exact ⟨[n], spells_digit small below⟩
    · have above : base ≤ n := Nat.not_lt.mp below
      obtain ⟨ds, front⟩ := ih (n / base) (Nat.div_lt_self (by omega) large)
      exact ⟨_, front.concat large small above⟩

/-- A format takes a number that is below its bound and not too long, and reads no further. -/
theorem NumberFormat.read_digits {f : NumberFormat} (large : 1 < f.base) (small : f.base ≤ 16)
    (below : n < f.bound) (room : ∀ most, f.maxDigits = some most → n < f.base ^ most ∧ 0 < most)
    (halts : Halts f.base rest) : f.read (Nat.toDigits f.base n ++ rest) = some (n, rest) := by
  obtain ⟨ds, spells⟩ := exists_spells large small n
  have reads : digitRun f.base (Nat.toDigits f.base n ++ rest) = (ds, rest) := by
    rw [spells.reads, halts, List.append_nil]
  have short : f.maxDigits.any (fun most => decide (most < ds.length)) = false := by
    cases limit : f.maxDigits with
    | none => rfl
    | some most =>
      obtain ⟨below, positive⟩ := room most limit
      have enough := (Nat.length_toDigits_le_iff large positive).mpr below
      simp [spells.length, enough]
  have plain : (decide (1 < ds.length) && decide (ds.head? = some 0)) = false := by
    rw [Bool.and_eq_false_imp]
    intro long
    refine decide_eq_false fun zero => ?_
    obtain rfl := spells.leads zero
    have single := spells.length
    rw [Nat.toDigits_zero] at single
    simp [single] at long
  have plain : (!f.leadingZeros && decide (1 < ds.length) && decide (ds.head? = some 0)) = false := by
    rw [Bool.and_assoc, plain, Bool.and_false]
  simp [read, reads, spells.ne_nil, short, plain, spells.value, below]

end StreamHost.Text
