import StreamHost.Toml.Lexical
import StreamHost.Toml.Value

/-!
Numbers, dates and times of the settings format.
-/

namespace StreamHost.Toml

open Text (Reader)

/-- Digits with single underscores between them, as values. -/
def digitGroup (base : Nat) : (fuel : Nat) → Reader (List Nat)
  | 0, _ => none
  | fuel + 1, cs =>
    match Text.digitRun base cs with
    | ([], _) => none
    | (ds, '_' :: rest) => do
      let (more, rest) ← digitGroup base fuel rest
      return (ds ++ more, rest)
    | (ds, rest) => some (ds, rest)

/-- Digits with single underscores between them. -/
def digits (base : Nat) : Reader (List Nat) := fun cs => digitGroup base (cs.length + 1) cs

/-- An optional sign: whether it is a minus. -/
def sign : List Char → Bool × List Char
  | '-' :: cs => (true, cs)
  | '+' :: cs => (false, cs)
  | cs => (false, cs)

/-- Decimal digits without a leading zero, except for zero itself. -/
def wholePart : Reader (List Nat)
  | '0' :: cs => some ([0], cs)
  | cs => digits 10 cs

/-- The integers that have a value. -/
def integerInRange (n : Int) : Bool :=
  decide (-9223372036854775808 ≤ n) && decide (n ≤ 9223372036854775807)

/-- An integer, decimal or with the mark of another base. -/
def integer : Reader Int := fun cs =>
  let based (base : Nat) (cs : List Char) : Option (Int × List Char) := do
    let (ds, rest) ← digits base cs
    let n : Int := Text.ofDigits base ds
    if integerInRange n then some (n, rest) else none
  match cs with
  | '0' :: 'x' :: rest => based 16 rest
  | '0' :: 'o' :: rest => based 8 rest
  | '0' :: 'b' :: rest => based 2 rest
  | _ => do
    let (minus, rest) := sign cs
    let (ds, rest) ← wholePart rest
    let n : Int := Text.ofDigits 10 ds
    let n := if minus then -n else n
    if integerInRange n then some (n, rest) else none

/-- The digits after a point. -/
def fractionPart : Reader (List Nat)
  | '.' :: cs => digits 10 cs
  | _ => none

/-- An exponent of ten. -/
def exponentPart : Reader Int
  | c :: cs =>
    if c = 'e' ∨ c = 'E' then do
      let (minus, cs) := sign cs
      let (ds, cs) ← digits 10 cs
      let n : Int := Text.ofDigits 10 ds
      return (if minus then -n else n, cs)
    else none
  | [] => none

/-- The double nearest to `m * 10 ^ e`. -/
def nearestFloat (m : Nat) (e : Int) : Float :=
  if m = 0 then 0
  else
    let size : Int := (Nat.toDigits 10 m).length + e
    if size < -400 then 0
    else if 400 < size then 1 / 0
    else if 0 ≤ e then Float.ofScientific m false e.toNat
    else Float.ofScientific m true (-e).toNat

/-- A number with a fraction or an exponent. One that is too large has no value; a negative one that is
too large is minus infinity. -/
def decimalFloat : Reader Float := fun cs => do
  let (minus, cs) := sign cs
  let (whole, cs) ← wholePart cs
  let (fraction, exponent, cs) ←
    match fractionPart cs with
    | some (fraction, cs) =>
      match cs with
      | 'e' :: _ | 'E' :: _ => do
        let (e, cs) ← exponentPart cs
        pure (fraction, e, cs)
      | _ => pure (fraction, 0, cs)
    | none => do
      let (e, cs) ← exponentPart cs
      pure ([], e, cs)
  let x := nearestFloat (Text.ofDigits 10 (whole ++ fraction)) (exponent - fraction.length)
  if x.isInf && !minus then none
  else return (if minus then -x else x, cs)

/-- Infinity or not a number, with an optional sign. -/
def namedFloat : Reader Float := fun cs =>
  let (minus, cs) := sign cs
  match cs with
  | 'i' :: 'n' :: 'f' :: rest => some (if minus then -1 / 0 else 1 / 0, rest)
  | 'n' :: 'a' :: 'n' :: rest => some (0 / 0, rest)
  | _ => none

/-- Exactly `width` decimal digits with a value in a range. -/
def field (width low high : Nat) : Reader Nat := fun cs =>
  let ds := (cs.take width).filterMap (Text.digitValue? 10)
  let n := Text.ofDigits 10 ds
  if ds.length = width ∧ low ≤ n ∧ n ≤ high then some (n, cs.drop width) else none

/-- The number of days of a month. -/
def daysIn (year month : Nat) : Nat :=
  if month = 2 then
    if year % 4 = 0 ∧ (year % 100 ≠ 0 ∨ year % 400 = 0) then 29 else 28
  else if month = 4 ∨ month = 6 ∨ month = 9 ∨ month = 11 then 30
  else 31

/-- Year, month and day. -/
def date : Reader Unit := fun cs => do
  let (year, cs) ← field 4 0 9999 cs
  let (month, cs) ← Reader.after '-' (field 2 1 12) cs
  let (_, cs) ← Reader.after '-' (field 2 1 (daysIn year month)) cs
  return ((), cs)

/-- Hour, minute and second, with an optional fraction. -/
def time : Reader Unit := fun cs => do
  let (_, cs) ← field 2 0 23 cs
  let (_, cs) ← Reader.after ':' (field 2 0 59) cs
  let (_, cs) ← Reader.after ':' (field 2 0 60) cs
  match cs with
  | '.' :: rest =>
    match Text.digitRun 10 rest with
    | ([], _) => return ((), cs)
    | (_, rest) => return ((), rest)
  | _ => return ((), cs)

/-- The offset from universal time. -/
def timeOffset : Reader Unit
  | 'Z' :: cs => some ((), cs)
  | 'z' :: cs => some ((), cs)
  | c :: cs =>
    if c = '+' ∨ c = '-' then do
      let (_, cs) ← field 2 0 23 cs
      let (_, cs) ← Reader.after ':' (field 2 0 59) cs
      return ((), cs)
    else none
  | [] => none

/-- A date, a time, or both with an optional offset. -/
def moment : Reader Unit := fun cs =>
  match date cs with
  | none => time cs
  | some (_, rest) =>
    match rest with
    | c :: after =>
      if c = 'T' ∨ c = 't' ∨ c = ' ' then
        match time after with
        | some (_, after) => some ((timeOffset after).getD ((), after))
        | none => some ((), rest)
      else some ((), rest)
    | [] => some ((), rest)

/-- A number, a date or a time: the first of these that can be read. -/
def number : Reader Value := fun cs =>
  ((moment cs).map fun (_, rest) => (Value.moment, rest)) <|>
  ((decimalFloat cs).map fun (x, rest) => (Value.float x, rest)) <|>
  ((namedFloat cs).map fun (x, rest) => (Value.float x, rest)) <|>
  ((integer cs).map fun (n, rest) => (Value.integer n, rest))

end StreamHost.Toml
