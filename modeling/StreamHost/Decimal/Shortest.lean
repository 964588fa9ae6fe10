/-!
The shortest decimal that reads back as a given binary number.

A finite double is `m * 2 ^ q`. The decimals that round to it fill an interval around it, whose ends
belong to it when `m` is even. For one digit, two digits and so on the decimals with that many digits
form a grid, and if a point of a grid lies in the interval then one of the value's two neighbours on
the grid does; the first grid with such a neighbour gives the result, of two neighbours the nearer one.
All arithmetic is exact.
-/

namespace StreamHost.Decimal

/-- A positive rational number. -/
structure Ratio where
  num : Nat
  den : Nat

namespace Ratio

def le (a b : Ratio) : Bool := decide (a.num * b.den ≤ b.num * a.den)
def lt (a b : Ratio) : Bool := decide (a.num * b.den < b.num * a.den)

/-- The distance of two numbers. -/
def dist (a b : Ratio) : Ratio :=
  ⟨(a.num * b.den - b.num * a.den) + (b.num * a.den - a.num * b.den), a.den * b.den⟩

/-- `n * base ^ e`. -/
def scaled (n base : Nat) (e : Int) : Ratio :=
  if 0 ≤ e then ⟨n * base.pow e.toNat, 1⟩ else ⟨n, base.pow (-e).toNat⟩

end Ratio

/-- A positive finite double `m * 2 ^ q`, with the ends of the interval that rounds to it. -/
structure Binary where
  value : Ratio
  low : Ratio
  high : Ratio
  /-- Whether the ends belong to the interval. -/
  closed : Bool

/-- How many fractions there are: 52 bits hold one. -/
def Binary.fractionSize : Nat := 4503599627370496

/-- The parts of a double from the bits of its fraction and exponent. -/
def Binary.ofFields (fraction exponent : Nat) : Binary :=
  let m := if exponent = 0 then fraction else fraction + fractionSize
  let q : Int := (if exponent = 0 then 1 else (exponent : Int)) - 1075
  -- below a power of two the neighbour is only half as far away
  let edge := decide (fraction = 0) && decide (1 < exponent)
  { value := .scaled m 2 q
    low := if edge then .scaled (4 * m - 1) 2 (q - 2) else .scaled (2 * m - 1) 2 (q - 1)
    high := .scaled (2 * m + 1) 2 (q - 1)
    closed := m % 2 = 0 }

/-- Whether a decimal reads back as the double. -/
def Binary.admits (b : Binary) (d : Ratio) : Bool :=
  if b.closed then b.low.le d && d.le b.high else b.low.lt d && d.lt b.high

/-- A decimal number `digits * 10 ^ exponent`. -/
structure Numeral where
  digits : Nat
  exponent : Int
  deriving DecidableEq, Repr

def Numeral.ratio (d : Numeral) : Ratio := .scaled d.digits 10 d.exponent

/-- The neighbours of a value on the grid of multiples of `10 ^ e`. -/
def neighbours (v : Ratio) (e : Int) : Numeral × Numeral :=
  let n := if 0 ≤ e then v.num / (v.den * Nat.pow 10 e.toNat) else v.num * Nat.pow 10 (-e).toNat / v.den
  (⟨n, e⟩, ⟨n + 1, e⟩)

/-- The better neighbour on a grid, if one reads back; of two that are equally near, the larger. -/
def pick (b : Binary) (e : Int) : Option Numeral :=
  let (lo, hi) := neighbours b.value e
  match b.admits lo.ratio && lo.digits != 0, b.admits hi.ratio with
  | true, true =>
    some (if (b.value.dist lo.ratio).lt (hi.ratio.dist b.value) then lo else hi)
  | true, false => some lo
  | false, true => some hi
  | false, false => none

/-- Tries ever finer grids. -/
def search (b : Binary) : (fuel : Nat) → Int → Numeral
  | 0, e => (neighbours b.value e).1
  | fuel + 1, e => (pick b e).getD (search b fuel (e - 1))

/-- The shortest decimal: from the grid of the highest power of ten that a double reaches down to the
finest grid that any double needs. -/
def shortest (b : Binary) : Numeral := search b 700 309

end StreamHost.Decimal
