/-!
Byte sequences: hexadecimal text, numbers with the most significant byte first, and the bytes of a text.
-/

namespace StreamHost

/-- A sequence of bytes. -/
abbrev Bytes := List UInt8

namespace Bytes

/-- The two lower-case digits of a byte. -/
def hexPair (b : UInt8) : List Char :=
  [Nat.digitChar (b.toNat / 16), Nat.digitChar (b.toNat % 16)]

/-- Two lower-case hexadecimal digits for each byte. -/
def hex (bs : Bytes) : String := String.ofList (bs.flatMap hexPair)

/-- The value of a hexadecimal digit. -/
def hexValue? (c : Char) : Option UInt8 :=
  if '0' ≤ c ∧ c ≤ '9' then some (c.toNat - '0'.toNat).toUInt8
  else if 'a' ≤ c ∧ c ≤ 'f' then some (c.toNat - 'a'.toNat + 10).toUInt8
  else if 'A' ≤ c ∧ c ≤ 'F' then some (c.toNat - 'A'.toNat + 10).toUInt8
  else none

/-- The bytes that pairs of hexadecimal digits stand for. -/
def ofHexDigits : List Char → Option Bytes
  | [] => some []
  | [_] => none
  | h :: l :: cs => do
    let h ← hexValue? h
    let l ← hexValue? l
    let bs ← ofHexDigits cs
    return (h * 16 + l) :: bs

/-- The bytes of a hexadecimal text. -/
def ofHex? (s : String) : Option Bytes := ofHexDigits s.toList

/-- The number with the given bytes, most significant first. -/
def toNat (bs : Bytes) : Nat := bs.foldl (fun n b => n * 256 + b.toNat) 0

/-- The lowest `width` bytes of a number, most significant first. -/
def ofNat : (width : Nat) → Nat → Bytes
  | 0, _ => []
  | w + 1, n => ofNat w (n / 256) ++ [(n % 256).toUInt8]

/-- The bytes of a text. -/
def ofText (s : String) : Bytes := s.toUTF8.toList

theorem length_ofNat (w n : Nat) : (ofNat w n).length = w := by
  induction w generalizing n with
  | zero => rfl
  | succ w ih => simp [ofNat, ih]

end Bytes

end StreamHost
