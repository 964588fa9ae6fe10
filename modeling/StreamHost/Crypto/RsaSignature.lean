import StreamHost.Crypto.Hash
import StreamHost.Crypto.Modular

/-!
Signatures with RSA. A signature is a number whose power, modulo the modulus, is a form of the digest of the
message: either the digest behind a fixed filling, or the digest mixed with a salt under a mask.
-/

namespace StreamHost.Crypto

/-- The public numbers of a key. -/
structure RsaPublic where
  modulus : Nat
  exponent : Nat
  deriving DecidableEq, Repr

namespace RsaPublic

/-- The least and the largest size of a modulus that signatures are checked with, in bits. -/
def leastBits : Nat := 2048
def mostBits : Nat := 8192

/-- The least and the largest exponent that signatures are checked with. -/
def leastExponent : Nat := 3
def mostExponent : Nat := 8589934591

/-- The bits of the modulus. -/
def bits (k : RsaPublic) : Nat := Modular.bitLength k.modulus

/-- The bytes of the modulus, and of a signature. -/
def size (k : RsaPublic) : Nat := (k.bits + 7) / 8

/-- Whether signatures are checked with a key. A size counts in whole bytes where it is compared with the
least one. -/
def isUsable (k : RsaPublic) : Bool :=
  k.modulus % 2 == 1 && decide (leastBits ≤ k.size * 8) && decide (k.bits ≤ mostBits) &&
    k.exponent % 2 == 1 && decide (leastExponent ≤ k.exponent) && decide (k.exponent ≤ mostExponent)

/-- What a signature stands for. -/
def open? (k : RsaPublic) (signature : Bytes) : Option Bytes :=
  let s := signature.toNat
  if k.isUsable ∧ signature.length = k.size ∧ 0 < s ∧ s < k.modulus then
    some (Bytes.ofNat k.size (Modular.pow k.modulus s k.exponent))
  else none

/-! ## The digest behind a fixed filling -/

/-- What stands before a digest: the name of its kind, and its length. -/
def digestMark : Hash → Bytes
  | .sha256 => [0x30, 0x31, 0x30, 0x0d, 0x06, 0x09, 0x60, 0x86, 0x48, 0x01, 0x65, 0x03, 0x04, 0x02, 0x01,
    0x05, 0x00, 0x04, 0x20]
  | .sha384 => [0x30, 0x41, 0x30, 0x0d, 0x06, 0x09, 0x60, 0x86, 0x48, 0x01, 0x65, 0x03, 0x04, 0x02, 0x02,
    0x05, 0x00, 0x04, 0x30]
  | .sha512 => [0x30, 0x51, 0x30, 0x0d, 0x06, 0x09, 0x60, 0x86, 0x48, 0x01, 0x65, 0x03, 0x04, 0x02, 0x03,
    0x05, 0x00, 0x04, 0x40]

/-- The form of a message, in so many bytes. -/
def filled (size : Nat) (h : Hash) (message : Bytes) : Bytes :=
  let tail := digestMark h ++ h.digest message
  0 :: 1 :: List.replicate (size - tail.length - 3) 0xff ++ 0 :: tail

/-- Whether a signature belongs to a message. -/
def verifiesFilled (k : RsaPublic) (h : Hash) (message signature : Bytes) : Bool :=
  k.open? signature == some (filled k.size h message)

/-! ## The digest under a mask -/

/-- So many bytes that follow from a seed; `count` tells how many digests were taken before. -/
def mask (h : Hash) (seed : Bytes) : (digests count : Nat) → Bytes
  | 0, _ => []
  | digests + 1, count => h.digest (seed ++ Bytes.ofNat 4 count) ++ mask h seed digests (count + 1)

/-- Two rows of bytes, one upon the other. -/
def overlay (a b : Bytes) : Bytes := List.zipWith (· ^^^ ·) a b

/-- Whether bytes are the masked form of a message, of which `bits` bits count. -/
def isMasked (bits : Nat) (h : Hash) (message form : Bytes) : Bool :=
  let size := (bits + 7) / 8
  let width := size - h.size - 1
  let masked := form.take width
  let check := (form.drop width).take h.size
  -- the bits at the front that count
  let front : UInt8 := (0xff : UInt8) >>> (8 * size - bits).toUInt8
  let block := overlay masked (mask h check (width / h.size + 1) 0)
  let block := match block with
    | [] => []
    | b :: bs => (b &&& front) :: bs
  let zeros := width - h.size - 1
  let salt := block.drop (width - h.size)
  decide (2 * h.size + 2 ≤ size) && form.drop (width + h.size) == [0xbc] &&
    masked.headD 0 &&& front == masked.headD 0 &&
    (block.take zeros).all (· == 0) && (block.drop zeros).head? == some 1 &&
    check == h.digest (List.replicate 8 0 ++ h.digest message ++ salt)

/-- Whether a signature belongs to a message. -/
def verifiesMasked (k : RsaPublic) (h : Hash) (message signature : Bytes) : Bool :=
  match k.open? signature with
  | none => false
  | some form =>
    let bits := k.bits - 1
    if bits % 8 = 0 then form.head? == some 0 && isMasked bits h message (form.drop 1)
    else isMasked bits h message form

end RsaPublic

end StreamHost.Crypto
