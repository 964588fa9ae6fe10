import StreamHost.Bytes

/-!
The digests SHA-512 and SHA-384. A message is padded to blocks of 128 bytes, and each block is mixed into
eight words over eighty rounds. The shorter digest starts from other words and leaves two out at the end.
`length_digest` and `length_digest384` say how many bytes a digest has.
-/

namespace StreamHost.Crypto.Sha512

/-- The first 64 bits of the fractional parts of the cube roots of the first eighty primes. -/
def roundConstants : List UInt64 := [
  0x428a2f98d728ae22, 0x7137449123ef65cd, 0xb5c0fbcfec4d3b2f, 0xe9b5dba58189dbbc,
  0x3956c25bf348b538, 0x59f111f1b605d019, 0x923f82a4af194f9b, 0xab1c5ed5da6d8118,
  0xd807aa98a3030242, 0x12835b0145706fbe, 0x243185be4ee4b28c, 0x550c7dc3d5ffb4e2,
  0x72be5d74f27b896f, 0x80deb1fe3b1696b1, 0x9bdc06a725c71235, 0xc19bf174cf692694,
  0xe49b69c19ef14ad2, 0xefbe4786384f25e3, 0x0fc19dc68b8cd5b5, 0x240ca1cc77ac9c65,
  0x2de92c6f592b0275, 0x4a7484aa6ea6e483, 0x5cb0a9dcbd41fbd4, 0x76f988da831153b5,
  0x983e5152ee66dfab, 0xa831c66d2db43210, 0xb00327c898fb213f, 0xbf597fc7beef0ee4,
  0xc6e00bf33da88fc2, 0xd5a79147930aa725, 0x06ca6351e003826f, 0x142929670a0e6e70,
  0x27b70a8546d22ffc, 0x2e1b21385c26c926, 0x4d2c6dfc5ac42aed, 0x53380d139d95b3df,
  0x650a73548baf63de, 0x766a0abb3c77b2a8, 0x81c2c92e47edaee6, 0x92722c851482353b,
  0xa2bfe8a14cf10364, 0xa81a664bbc423001, 0xc24b8b70d0f89791, 0xc76c51a30654be30,
  0xd192e819d6ef5218, 0xd69906245565a910, 0xf40e35855771202a, 0x106aa07032bbd1b8,
  0x19a4c116b8d2d0c8, 0x1e376c085141ab53, 0x2748774cdf8eeb99, 0x34b0bcb5e19b48a8,
  0x391c0cb3c5c95a63, 0x4ed8aa4ae3418acb, 0x5b9cca4f7763e373, 0x682e6ff3d6b2b8a3,
  0x748f82ee5defb2fc, 0x78a5636f43172f60, 0x84c87814a1f0ab72, 0x8cc702081a6439ec,
  0x90befffa23631e28, 0xa4506cebde82bde9, 0xbef9a3f7b2c67915, 0xc67178f2e372532b,
  0xca273eceea26619c, 0xd186b8c721c0c207, 0xeada7dd6cde0eb1e, 0xf57d4f7fee6ed178,
  0x06f067aa72176fba, 0x0a637dc5a2c898a6, 0x113f9804bef90dae, 0x1b710b35131c471b,
  0x28db77f523047d84, 0x32caab7b40c72493, 0x3c9ebe0a15c9bebc, 0x431d67c49c100d4c,
  0x4cc5d4becb3e42b6, 0x597f299cfc657e2a, 0x5fcb6fab3ad6faec, 0x6c44198c4a475817]

/-- The eight words of a digest under way. -/
structure State where
  a : UInt64
  b : UInt64
  c : UInt64
  d : UInt64
  e : UInt64
  f : UInt64
  g : UInt64
  h : UInt64

/-- The first 64 bits of the fractional parts of the square roots of the first eight primes. -/
def State.initial : State where
  a := 0x6a09e667f3bcc908
  b := 0xbb67ae8584caa73b
  c := 0x3c6ef372fe94f82b
  d := 0xa54ff53a5f1d36f1
  e := 0x510e527fade682d1
  f := 0x9b05688c2b3e6c1f
  g := 0x1f83d9abfb41bd6b
  h := 0x5be0cd19137e2179

/-- The first 64 bits of the fractional parts of the square roots of the eight primes after those. -/
def State.initial384 : State where
  a := 0xcbbb9d5dc1059ed8
  b := 0x629a292a367cd507
  c := 0x9159015a3070dd17
  d := 0x152fecd8f70e5939
  e := 0x67332667ffc00b31
  f := 0x8eb44a8768581511
  g := 0xdb0c2e0d64f98fa7
  h := 0x47b5481dbefa4fa4

/-- A word turned to the right. -/
def rotate (x n : UInt64) : UInt64 := (x >>> n) ||| (x <<< (64 - n))

/-- Word by word sum. -/
def State.add (s t : State) : State where
  a := s.a + t.a
  b := s.b + t.b
  c := s.c + t.c
  d := s.d + t.d
  e := s.e + t.e
  f := s.f + t.f
  g := s.g + t.g
  h := s.h + t.h

/-- One round with its constant and its word of the schedule. -/
def State.round (s : State) (constant word : UInt64) : State :=
  let choice := (s.e &&& s.f) ^^^ (~~~s.e &&& s.g)
  let majority := (s.a &&& s.b) ^^^ (s.a &&& s.c) ^^^ (s.b &&& s.c)
  let first := s.h + (rotate s.e 14 ^^^ rotate s.e 18 ^^^ rotate s.e 41) + choice + constant + word
  let second := (rotate s.a 28 ^^^ rotate s.a 34 ^^^ rotate s.a 39) + majority
  { a := first + second, b := s.a, c := s.b, d := s.c, e := s.d + first, f := s.e, g := s.f, h := s.g }

/-- The next word of a schedule whose last sixteen words are given, the oldest first. -/
def nextWord (window : List UInt64) : UInt64 :=
  match window with
  | [w0, w1, _, _, _, _, _, _, _, w9, _, _, _, _, w14, _] =>
    w0 + (rotate w1 1 ^^^ rotate w1 8 ^^^ (w1 >>> 7)) + w9 + (rotate w14 19 ^^^ rotate w14 61 ^^^ (w14 >>> 6))
  | _ => 0

/-- The rounds of a block: each takes the oldest word of the window, and a new one comes in. -/
def rounds : List UInt64 → State → (window : List UInt64) → State
  | [], s, _ => s
  | k :: ks, s, window => rounds ks (s.round k (window.headD 0)) (window.tail ++ [nextWord window])

/-- So many words of eight bytes. -/
def words : (count : Nat) → Bytes → List UInt64
  | 0, _ => []
  | count + 1, bs => (Bytes.toNat (bs.take 8)).toUInt64 :: words count (bs.drop 8)

/-- The size of a block. -/
def blockSize : Nat := 128

/-- Mixes so many blocks in. -/
def blocks : (count : Nat) → State → Bytes → State
  | 0, s, _ => s
  | count + 1, s, bs =>
    blocks count (s.add (rounds roundConstants s (words 16 (bs.take blockSize)))) (bs.drop blockSize)

/-- A message with a one, zeros, and its length in bits in sixteen bytes behind it. -/
def padded (message : Bytes) : Bytes :=
  let zeros := (2 * blockSize - 17 - message.length % blockSize) % blockSize
  message ++ 0x80 :: List.replicate zeros 0 ++ Bytes.ofNat 16 (message.length * 8)

/-- The bytes of the words. -/
def State.bytes (s : State) : Bytes :=
  [s.a, s.b, s.c, s.d, s.e, s.f, s.g, s.h].flatMap fun w => Bytes.ofNat 8 w.toNat

/-- The bytes of all words that come of a message. -/
def mixed (initial : State) (message : Bytes) : Bytes :=
  let bs := padded message
  (blocks (bs.length / blockSize) initial bs).bytes

/-- The digest of a message. -/
def digest (message : Bytes) : Bytes := mixed .initial message

/-- The shorter digest of a message. -/
def digest384 (message : Bytes) : Bytes := (mixed .initial384 message).take 48

theorem length_mixed (initial : State) (message : Bytes) : (mixed initial message).length = 64 := by
  simp [mixed, State.bytes, Bytes.length_ofNat]

theorem length_digest (message : Bytes) : (digest message).length = 64 := length_mixed _ _

theorem length_digest384 (message : Bytes) : (digest384 message).length = 48 := by
  simp [digest384, length_mixed]

end StreamHost.Crypto.Sha512
