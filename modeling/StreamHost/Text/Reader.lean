/-!
Readers: functions that take something off the front of a text. A reader gives what it read with the
characters that follow, or nothing. The readers of addresses and of settings are built from these.
-/

namespace StreamHost.Text

/-- A reader of `α`. -/
abbrev Reader (α : Type) := List Char → Option (α × List Char)

namespace Reader

/-- The given character. -/
def mark (c : Char) : Reader Unit
  | d :: rest => if d = c then some ((), rest) else none
  | [] => none

/-- `inner` with the given character in front of it. -/
def after {α : Type} (c : Char) (inner : Reader α) : Reader α := fun cs =>
  match mark c cs with
  | some (_, rest) => inner rest
  | none => none

end Reader

/-- The value of a digit below `base`. -/
def digitValue? (base : Nat) (c : Char) : Option Nat :=
  let v :=
    if '0' ≤ c ∧ c ≤ '9' then c.toNat - '0'.toNat
    else if 'a' ≤ c ∧ c ≤ 'z' then c.toNat - 'a'.toNat + 10
    else if 'A' ≤ c ∧ c ≤ 'Z' then c.toNat - 'A'.toNat + 10
    else base
  if v < base then some v else none

/-- The digits at the front, as values, and what follows them. -/
def digitRun (base : Nat) : List Char → List Nat × List Char
  | [] => ([], [])
  | c :: cs =>
    match digitValue? base c with
    | some v => let (vs, rest) := digitRun base cs; (v :: vs, rest)
    | none => ([], c :: cs)

/-- The number that a list of digits stands for. -/
def ofDigits (base : Nat) (ds : List Nat) : Nat := ds.foldl (fun n d => n * base + d) 0

/-- How a number may be written. -/
structure NumberFormat where
  base : Nat
  /-- Numbers lie below this. -/
  bound : Nat
  maxDigits : Option Nat
  leadingZeros : Bool

/-- The whole run of digits at the front must be a number of the format. -/
def NumberFormat.read (f : NumberFormat) : Reader Nat := fun cs =>
  let (ds, rest) := digitRun f.base cs
  if ds.isEmpty then none
  else if f.maxDigits.any (· < ds.length) then none
  else if !f.leadingZeros && decide (1 < ds.length) && decide (ds.head? = some 0) then none
  else if ofDigits f.base ds < f.bound then some (ofDigits f.base ds, rest) else none

end StreamHost.Text
