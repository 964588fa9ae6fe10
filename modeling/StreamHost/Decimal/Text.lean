import StreamHost.Decimal.Shortest

/-!
How a floating-point number is written: its shortest decimal, always positional, with a point and at
least one digit on both sides of it.
-/

namespace StreamHost.Decimal

/-- Removes the factors of ten of a decimal. -/
def trimZeros : (fuel : Nat) → Numeral → Numeral
  | 0, d => d
  | fuel + 1, d =>
    if d.digits != 0 && d.digits % 10 == 0 then trimZeros fuel ⟨d.digits / 10, d.exponent + 1⟩ else d

/-- The positional form. -/
def positional (d : Numeral) : String :=
  let ds := Nat.toDigits 10 d.digits
  if 0 ≤ d.exponent then
    String.ofList (ds ++ List.replicate d.exponent.toNat '0') ++ ".0"
  else
    let places := (-d.exponent).toNat
    let padded := List.replicate (places + 1 - ds.length) '0' ++ ds
    let whole := padded.take (padded.length - places)
    String.ofList whole ++ "." ++ String.ofList (padded.drop (padded.length - places))

/-- The text of a double. -/
def floatText (x : Float) : String :=
  let bits := x.toBits.toNat
  let fraction := bits % Binary.fractionSize
  let exponent := bits / Binary.fractionSize % 2048
  let sign := if bits / Binary.fractionSize / 2048 = 1 then "-" else ""
  if exponent = 2047 then if fraction = 0 then sign ++ "inf" else "NaN"
  else if exponent = 0 ∧ fraction = 0 then sign ++ "0.0"
  else sign ++ positional (trimZeros 400 (shortest (.ofFields fraction exponent)))

end StreamHost.Decimal
