import StreamHost.Bytes

/-!
Tagged values in the distinguished encoding: a tag byte, a length in the fewest bytes, and the content.
Certificates and keys are nested values of this form. The readers here take a value off the front of
some bytes; `all` asks that nothing stands behind it. The writers put a value together.
-/

namespace StreamHost.Tls.Der

/-- A tag and its content. -/
structure Value where
  tag : UInt8
  content : Bytes

def sequenceTag : UInt8 := 0x30
def integerTag : UInt8 := 0x02
def booleanTag : UInt8 := 0x01
def bitStringTag : UInt8 := 0x03
def octetStringTag : UInt8 := 0x04
def oidTag : UInt8 := 0x06

/-- The tag of a constructed value that the context numbers. -/
def contextTag (n : UInt8) : UInt8 := 0xa0 + n

/-- Lengths lie below this. -/
def lengthLimit : Nat := 65535

/-- A length: one byte below 128, else a count of bytes and the bytes, as few as possible. -/
def length? : Bytes → Option (Nat × Bytes)
  | [] => none
  | b :: bs =>
    if b < 0x80 then some (b.toNat, bs)
    else
      let k := b.toNat - 0x80
      let n := Bytes.toNat (bs.take k)
      if k = 0 ∨ 2 < k ∨ bs.length < k then none
      else if n < 0x80 ∨ (k = 2 ∧ n < 0x100) ∨ lengthLimit ≤ n then none
      else some (n, bs.drop k)

/-- A length in the form that `length?` reads; lengths of more than two bytes have none. -/
def lengthBytes (n : Nat) : Bytes :=
  if n < 0x80 then [n.toUInt8]
  else if n < 0x100 then 0x81 :: Bytes.ofNat 1 n
  else 0x82 :: Bytes.ofNat 2 n

/-- A tagged value. -/
def encode (tag : UInt8) (content : Bytes) : Bytes := tag :: lengthBytes content.length ++ content

/-- The value at the front and what follows it. -/
def next? : Bytes → Option (Value × Bytes)
  | [] => none
  | tag :: bs => do
    if tag &&& 0x1f = 0x1f then none
    let (n, bs) ← length? bs
    if bs.length < n then none
    return (⟨tag, bs.take n⟩, bs.drop n)

/-- The content of a value with the given tag at the front, and what follows it. -/
def take? (tag : UInt8) (bs : Bytes) : Option (Bytes × Bytes) := do
  let (v, rest) ← next? bs
  if v.tag = tag then some (v.content, rest) else none

/-- The content of a value with the given tag, if one stands at the front, and what follows it. -/
def optional (tag : UInt8) (bs : Bytes) : Option Bytes × Bytes :=
  match take? tag bs with
  | some (c, rest) => (some c, rest)
  | none => (none, bs)

/-- The content of the only value, with the given tag. -/
def all (tag : UInt8) (bs : Bytes) : Option Bytes := do
  let (c, rest) ← take? tag bs
  if rest.isEmpty then some c else none

/-- The bits of a bit string that fills whole bytes. -/
def wholeBits? : Bytes → Option Bytes
  | 0 :: bs => some bs
  | _ => none

/-- A number that is not negative, in as few bytes as possible. -/
def natural? : Bytes → Option Nat
  | [] => none
  | [b] => if b < 0x80 then some b.toNat else none
  | b :: c :: bs =>
    if 0x80 ≤ b ∨ (b = 0 ∧ c < 0x80) then none else some (Bytes.toNat (b :: c :: bs))

/-- A number that is not negative at the front, and what follows it. -/
def number? (bs : Bytes) : Option (Nat × Bytes) := do
  let (content, rest) ← take? integerTag bs
  let n ← natural? content
  return (n, rest)

/-- So many numbers one after the other, and what follows them. -/
def numbers? : (count : Nat) → Bytes → Option (List Nat × Bytes)
  | 0, bs => some ([], bs)
  | count + 1, bs => do
    let (n, rest) ← number? bs
    let (ns, rest) ← numbers? count rest
    return (n :: ns, rest)

/-! ## Writing -/

def sequence (parts : List Bytes) : Bytes := encode sequenceTag parts.flatten
def octets (bs : Bytes) : Bytes := encode octetStringTag bs
def bits (bs : Bytes) : Bytes := encode bitStringTag (0 :: bs)
def identifier (oid : Bytes) : Bytes := encode oidTag oid

/-- Nothing, where something could stand. -/
def null : Bytes := [0x05, 0x00]

/-- How many bytes a number takes with a zero bit in front. -/
def width (n : Nat) : Nat := if n = 0 then 1 else n.log2 / 8 + if n.log2 % 8 = 7 then 2 else 1

/-- A number. -/
def number (n : Nat) : Bytes := encode integerTag (Bytes.ofNat (width n) n)

end StreamHost.Tls.Der
