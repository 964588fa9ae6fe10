import StreamHost.Bytes

/-!
The digest SHA-256. A message is padded to blocks of 64 bytes, and each block is mixed into eight words
over sixty-four rounds. `length_digest` says that a digest has 32 bytes.
-/

namespace StreamHost.Crypto.Sha256

/-- The first 32 bits of the fractional parts of the cube roots of the first sixty-four primes. -/
def roundConstants : List UInt32 := [
  0x428a2f98, 0x71374491, 0xb5c0fbcf, 0xe9b5dba5, 0x3956c25b, 0x59f111f1,
  0x923f82a4, 0xab1c5ed5, 0xd807aa98, 0x12835b01, 0x243185be, 0x550c7dc3,
  0x72be5d74, 0x80deb1fe, 0x9bdc06a7, 0xc19bf174, 0xe49b69c1, 0xefbe4786,
  0x0fc19dc6, 0x240ca1cc, 0x2de92c6f, 0x4a7484aa, 0x5cb0a9dc, 0x76f988da,
  0x983e5152, 0xa831c66d, 0xb00327c8, 0xbf597fc7, 0xc6e00bf3, 0xd5a79147,
  0x06ca6351, 0x14292967, 0x27b70a85, 0x2e1b2138, 0x4d2c6dfc, 0x53380d13,
  0x650a7354, 0x766a0abb, 0x81c2c92e, 0x92722c85, 0xa2bfe8a1, 0xa81a664b,
  0xc24b8b70, 0xc76c51a3, 0xd192e819, 0xd6990624, 0xf40e3585, 0x106aa070,
  0x19a4c116, 0x1e376c08, 0x2748774c, 0x34b0bcb5, 0x391c0cb3, 0x4ed8aa4a,
  0x5b9cca4f, 0x682e6ff3, 0x748f82ee, 0x78a5636f, 0x84c87814, 0x8cc70208,
  0x90befffa, 0xa4506ceb, 0xbef9a3f7, 0xc67178f2]

/-- The eight words of a digest under way. -/
structure State where
  a : UInt32
  b : UInt32
  c : UInt32
  d : UInt32
  e : UInt32
  f : UInt32
  g : UInt32
  h : UInt32

/-- The first 32 bits of the fractional parts of the square roots of the first eight primes. -/
def State.initial : State where
  a := 0x6a09e667
  b := 0xbb67ae85
  c := 0x3c6ef372
  d := 0xa54ff53a
  e := 0x510e527f
  f := 0x9b05688c
  g := 0x1f83d9ab
  h := 0x5be0cd19

/-- A word turned to the right. -/
def rotate (x n : UInt32) : UInt32 := (x >>> n) ||| (x <<< (32 - n))

/-- Word by word sum. -/
def State.add (s t : State) : State where
  a := s.a + t.a
  b := s.b + t.b
  c := s.c + t.c
  d := s.d + t.d
  e := s.e + t.e
  f := s.f + t.f
  g := s.g + t.g
  h := s.h + t.h

/-- One round with its constant and its word of the schedule. -/
def State.round (s : State) (constant word : UInt32) : State :=
  let choice := (s.e &&& s.f) ^^^ (~~~s.e &&& s.g)
  let majority := (s.a &&& s.b) ^^^ (s.a &&& s.c) ^^^ (s.b &&& s.c)
  let first := s.h + (rotate s.e 6 ^^^ rotate s.e 11 ^^^ rotate s.e 25) + choice + constant + word
  let second := (rotate s.a 2 ^^^ rotate s.a 13 ^^^ rotate s.a 22) + majority
  { a := first + second, b := s.a, c := s.b, d := s.c, e := s.d + first, f := s.e, g := s.f, h := s.g }

/-- The next word of a schedule whose last sixteen words are given, the oldest first. -/
def nextWord (window : List UInt32) : UInt32 :=
  match window with
  | [w0, w1, _, _, _, _, _, _, _, w9, _, _, _, _, w14, _] =>
    w0 + (rotate w1 7 ^^^ rotate w1 18 ^^^ (w1 >>> 3)) + w9 + (rotate w14 17 ^^^ rotate w14 19 ^^^ (w14 >>> 10))
  | _ => 0

/-- The rounds of a block: each takes the oldest word of the window, and a new one comes in. -/
def rounds : List UInt32 → State → (window : List UInt32) → State
  | [], s, _ => s
  | k :: ks, s, window => rounds ks (s.round k (window.headD 0)) (window.tail ++ [nextWord window])

/-- So many words of four bytes. -/
def words : (count : Nat) → Bytes → List UInt32
  | 0, _ => []
  | count + 1, bs => (Bytes.toNat (bs.take 4)).toUInt32 :: words count (bs.drop 4)

/-- The size of a block. -/
def blockSize : Nat := 64

/-- Mixes so many blocks in. -/
def blocks : (count : Nat) → State → Bytes → State
  | 0, s, _ => s
  | count + 1, s, bs =>
    blocks count (s.add (rounds roundConstants s (words 16 (bs.take blockSize)))) (bs.drop blockSize)

/-- A message with a one, zeros, and its length in bits in eight bytes behind it. -/
def padded (message : Bytes) : Bytes :=
  let zeros := (2 * blockSize - 9 - message.length % blockSize) % blockSize
  message ++ 0x80 :: List.replicate zeros 0 ++ Bytes.ofNat 8 (message.length * 8)

/-- The bytes of the words. -/
def State.bytes (s : State) : Bytes :=
  [s.a, s.b, s.c, s.d, s.e, s.f, s.g, s.h].flatMap fun w => Bytes.ofNat 4 w.toNat

/-- The digest of a message. -/
def digest (message : Bytes) : Bytes :=
  let bs := padded message
  (blocks (bs.length / blockSize) .initial bs).bytes

theorem length_digest (message : Bytes) : (digest message).length = 32 := by
  simp [digest, State.bytes, Bytes.length_ofNat]

end StreamHost.Crypto.Sha256
