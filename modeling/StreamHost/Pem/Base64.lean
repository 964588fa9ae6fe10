import StreamHost.Bytes

/-!
Base64 with optional padding. Blanks between symbols (the space and the controls from the tab to the
carriage return) are skipped. Symbols are taken in blocks of eight; a block that is not the last must be
free of padding, and in the last one padding may stand only where it completes a group of four. Bits of a
last symbol that belong to no whole byte are dropped.
-/

namespace StreamHost.Pem.Base64

inductive Failure where
  | invalidCharacter (byte : UInt8)
  /-- Padding with more symbols behind it. -/
  | prematurePadding
  /-- A last group that padding does not complete. -/
  | invalidTrailingPadding
  deriving DecidableEq, Repr

/-- How a failure is written. -/
def Failure.text : Failure → String
  | invalidCharacter b => "InvalidCharacter(" ++ toString b.toNat ++ ")"
  | prematurePadding => "PrematurePadding"
  | invalidTrailingPadding => "InvalidTrailingPadding"

/-- What a byte means. -/
inductive Symbol where
  | value (bits : Nat)
  | padding
  | blank
  | other
  deriving DecidableEq, Repr

/-- The meaning of a byte. -/
def symbol (b : UInt8) : Symbol :=
  let n := b.toNat
  if 65 ≤ n ∧ n ≤ 90 then .value (n - 65)
  else if 97 ≤ n ∧ n ≤ 122 then .value (n - 97 + 26)
  else if 48 ≤ n ∧ n ≤ 57 then .value (n - 48 + 52)
  else if n = 43 then .value 62
  else if n = 47 then .value 63
  else if n = 61 then .padding
  else if n = 32 ∨ (9 ≤ n ∧ n ≤ 13) then .blank
  else .other

/-- A symbol that counts: its six bits, or padding. -/
abbrev Item := Option Nat

/-- The first `n` bytes of a group of four symbols, padding counted as zero. -/
def groupBytes (n : Nat) (items : List Item) : Bytes :=
  let bits := (items ++ List.replicate (4 - items.length) none).foldl
    (fun acc (i : Item) => acc * 64 + i.getD 0) 0
  (Bytes.ofNat 3 bits).take n

/-- A whole group without padding. -/
def isFull (items : List Item) : Bool := items.length == 4 && items.all Option.isSome

/-- The last group: whole, or completed by padding, or cut short without any. -/
def lastGroup (items : List Item) : Except Failure Bytes :=
  match items.map Option.isSome with
  | [] => .ok []
  | [true, true, true, true] => .ok (groupBytes 3 items)
  | [true, true, true, false] | [true, true, true] => .ok (groupBytes 2 items)
  | [true, true, false, false] | [true, true] => .ok (groupBytes 1 items)
  | _ => .error .invalidTrailingPadding

/-- The last block of up to eight symbols. -/
def lastBlock (items : List Item) : Except Failure Bytes :=
  if items.length ≤ 4 then lastGroup items
  else if isFull (items.take 4) then (groupBytes 3 (items.take 4) ++ ·) <$> lastGroup (items.drop 4)
  else .error .prematurePadding

/-- Decodes on, with the symbols of the current block. -/
def decodeFrom (block : List Item) : Bytes → Except Failure Bytes
  | [] => lastBlock block
  | b :: bs =>
    let go (item : Item) : Except Failure Bytes :=
      if block.length = 8 then
        if block.all Option.isSome then do
          let rest ← decodeFrom [item] bs
          return groupBytes 3 (block.take 4) ++ groupBytes 3 (block.drop 4) ++ rest
        else .error .prematurePadding
      else decodeFrom (block ++ [item]) bs
    match symbol b with
    | .blank => decodeFrom block bs
    | .other => .error (.invalidCharacter b)
    | .padding => go none
    | .value v => go (some v)

/-- The symbol with a value. -/
def letter (v : Nat) : UInt8 :=
  if v < 26 then (v + 65).toUInt8
  else if v < 52 then (v - 26 + 97).toUInt8
  else if v < 62 then (v - 52 + 48).toUInt8
  else if v = 62 then 43 else 47

/-- The written form of bytes, with padding. -/
def encode : Bytes → Bytes
  | [] => []
  | [a] => [letter (a.toNat / 4), letter (a.toNat % 4 * 16), 61, 61]
  | [a, b] => [letter (a.toNat / 4), letter (a.toNat % 4 * 16 + b.toNat / 16),
      letter (b.toNat % 16 * 4), 61]
  | a :: b :: c :: rest =>
    [letter (a.toNat / 4), letter (a.toNat % 4 * 16 + b.toNat / 16),
      letter (b.toNat % 16 * 4 + c.toNat / 64), letter (c.toNat % 64)] ++ encode rest

/-- The bytes that a text stands for. -/
def decode (bs : Bytes) : Except Failure Bytes := decodeFrom [] bs

end StreamHost.Pem.Base64
