import StreamHost.Crypto.Modular
import StreamHost.Crypto.Sha512

/-!
Signatures with Ed25519, and the public point of a seed. The curve is `y² - x² = 1 + d x² y²` over the numbers below
`2^255 - 19`; points have coordinates `(x : y : z : t)` with `x y = z t`.
-/

namespace StreamHost.Crypto.Edwards

def prime : Nat := 0x7fffffffffffffffffffffffffffffffffffffffffffffffffffffffffffffed

/-- The parameter of the curve. -/
def d : Nat := 0x52036cee2b6ffe738cc740797779e89800700a4d4141d8ab75eb4dca135978a3

structure Point where
  x : Nat
  y : Nat
  z : Nat
  t : Nat

/-- The neutral point. -/
def neutral : Point := ⟨0, 1, 1, 0⟩

def baseX : Nat := 0x216936d3cd6e53fec0a4e231fdd6dc5c692cc7609525a7b2c9562d608f25d51a
def baseY : Nat := 0x6666666666666666666666666666666666666666666666666666666666666658

/-- The generating point. -/
def base : Point := ⟨baseX, baseY, 1, baseX * baseY % prime⟩

/-- The sum of two points. It is complete: it holds for equal points and for the neutral one too. -/
def add (a b : Point) : Point :=
  let p := Modular.sub prime a.y a.x * Modular.sub prime b.y b.x % prime
  let q := (a.y + a.x) * (b.y + b.x) % prime
  let r := 2 * d * a.t * b.t % prime
  let s := 2 * a.z * b.z % prime
  let e := Modular.sub prime q p
  let f := Modular.sub prime s r
  let g := s + r
  let h := q + p
  ⟨e * f % prime, g * h % prime, f * g % prime, e * h % prime⟩

/-- A multiple of a point, for factors of at most so many bits. -/
def timesWithin (a : Point) : (bits : Nat) → (factor : Nat) → Point
  | 0, _ => neutral
  | bits + 1, n =>
    let half := timesWithin a bits (n / 2)
    let twice := add half half
    if n % 2 = 1 then add twice a else twice

/-- The secret number in the first half of a digest: least byte first, a multiple of eight with the bit
before the last one set. -/
def secretNumber (digest : Bytes) : Nat :=
  let n := Bytes.toNat (digest.take 32).reverse % 0x4000000000000000000000000000000000000000000000000000000000000000
  n - n % 8 + 0x4000000000000000000000000000000000000000000000000000000000000000

/-- The bytes of a point: the second coordinate, least byte first, with the parity of the first one on top. -/
def encode (a : Point) : Bytes :=
  let i := Modular.inverse prime a.z
  let sign := if a.x * i % prime % 2 = 1 then 0x8000000000000000000000000000000000000000000000000000000000000000 else 0
  (Bytes.ofNat 32 (a.y * i % prime + sign)).reverse

/-- The bytes of a seed, and of a public point. -/
def size : Nat := 32

/-- A multiple of a point. -/
def times (a : Point) (n : Nat) : Point := timesWithin a (Modular.bitLength n) n

/-- The public point of a seed. -/
def publicPoint (seed : Bytes) : Bytes :=
  encode (times base (secretNumber (Sha512.digest seed)))

/-- The order of the generating point. -/
def order : Nat := 0x1000000000000000000000000000000014def9dea2f79cd65812631a5cf5d3ed

/-- A number with the least byte first. -/
def number (bs : Bytes) : Nat := Bytes.toNat bs.reverse

/-- A square root of minus one. -/
def rootOfMinusOne : Nat := Modular.pow prime 2 ((prime - 1) / 4)

/-- A number whose square, times `v`, is `u`. -/
def root? (u v : Nat) : Option Nat :=
  let v3 := v * v % prime * v % prime
  let v7 := v3 * v3 % prime * v % prime
  let x := u * v3 % prime * Modular.pow prime (u * v7 % prime) ((prime - 5) / 8) % prime
  let square := v * (x * x % prime) % prime
  if square = u then some x
  else if square = (prime - u) % prime then some (x * rootOfMinusOne % prime)
  else none

/-- One more than the highest number of 255 bits. -/
def capacity : Nat := 0x8000000000000000000000000000000000000000000000000000000000000000

/-- The point that bytes stand for. -/
def decode? (bs : Bytes) : Option Point := do
  let y := number bs % capacity % prime
  let yy := y * y % prime
  let x ← root? (Modular.sub prime yy 1) ((d * yy + 1) % prime)
  let x := if x % 2 = number bs / capacity then x else (prime - x) % prime
  return ⟨x, y, 1, x * y % prime⟩

/-- The point on the other side. -/
def negate (a : Point) : Point := { a with x := (prime - a.x) % prime, t := (prime - a.t) % prime }

/-- The number that ties a drawn point, a public point and a message together. -/
def challenge (drawn point message : Bytes) : Nat := number (Sha512.digest (drawn ++ point ++ message)) % order

/-- Whether a signature belongs to a message and a public point. -/
def verifies (point message signature : Bytes) : Bool :=
  let drawn := signature.take size
  let s := number (signature.drop size)
  decide (point.length = size) && decide (signature.length = 2 * size) && decide (s < order) &&
    (decode? point).any fun a =>
      encode (add (times base s) (times (negate a) (challenge drawn point message))) == drawn

/-- The signature of a message with a seed. -/
def sign (seed message : Bytes) : Bytes :=
  let digest := Sha512.digest seed
  let k := number (Sha512.digest (digest.drop size ++ message)) % order
  let drawn := encode (times base k)
  let s := (k + challenge drawn (publicPoint seed) message * secretNumber digest) % order
  drawn ++ (Bytes.ofNat size s).reverse

end StreamHost.Crypto.Edwards
