/-!
Lengths of time in whole nanoseconds, and their written form: the largest of the units second,
millisecond, microsecond and nanosecond in which the value is at least one, with as many decimals as
it needs.
-/

namespace StreamHost

/-- A length of time. -/
structure Duration where
  nanos : Nat
  deriving DecidableEq, Repr, Inhabited

namespace Duration

def ofNanos (n : Nat) : Duration := ⟨n⟩
def ofMillis (n : Nat) : Duration := ⟨n * 1000000⟩
def ofSecs (n : Nat) : Duration := ⟨n * 1000000000⟩

instance : LE Duration := ⟨fun a b => a.nanos ≤ b.nanos⟩
instance : LT Duration := ⟨fun a b => a.nanos < b.nanos⟩
instance (a b : Duration) : Decidable (a ≤ b) := inferInstanceAs (Decidable (a.nanos ≤ b.nanos))
instance (a b : Duration) : Decidable (a < b) := inferInstanceAs (Decidable (a.nanos < b.nanos))

theorem le_def {a b : Duration} : a ≤ b ↔ a.nanos ≤ b.nanos := Iff.rfl
theorem lt_def {a b : Duration} : a < b ↔ a.nanos < b.nanos := Iff.rfl

/-- Exactly `width` decimal digits of `n`, with leading zeros. -/
def paddedDigits (width n : Nat) : List Char :=
  let ds := Nat.toDigits 10 n
  List.replicate (width - ds.length) '0' ++ ds

/-- The decimals of a fraction `n / 10 ^ width` without the trailing zeros. -/
def fraction (width n : Nat) : List Char :=
  ((paddedDigits width n).reverse.dropWhile (· == '0')).reverse

/-- `n` in units of `10 ^ width` nanoseconds. -/
def inUnit (n width : Nat) (unit : String) : String :=
  let size := Nat.pow 10 width
  let whole := toString (n / size)
  match fraction width (n % size) with
  | [] => whole ++ unit
  | ds => whole ++ "." ++ String.ofList ds ++ unit

/-- The written form. -/
def text (d : Duration) : String :=
  let n := d.nanos
  if 1000000000 ≤ n then inUnit n 9 "s"
  else if 1000000 ≤ n then inUnit n 6 "ms"
  else if 1000 ≤ n then inUnit n 3 "µs"
  else inUnit n 0 "ns"

end Duration

end StreamHost
