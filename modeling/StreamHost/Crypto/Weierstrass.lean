import StreamHost.Bytes
import StreamHost.Crypto.Modular

/-!
The curves `y² = x³ - 3x + b` over the numbers below a prime: which bytes are a point, the public point of a
secret number, and what a secret number and a point agree on. Points are multiplied in coordinates
`(x : y : z)` that stand for `(x/z², y/z³)`, and the point at infinity has `z = 0`.
-/

namespace StreamHost.Crypto

/-- A curve with a point that generates a group of prime order. -/
structure Weierstrass where
  prime : Nat
  b : Nat
  order : Nat
  baseX : Nat
  baseY : Nat
  /-- The bytes of a coordinate, and of a secret number. -/
  size : Nat
  deriving DecidableEq, Repr

namespace Weierstrass

def p256 : Weierstrass where
  prime := 0xffffffff00000001000000000000000000000000ffffffffffffffffffffffff
  b := 0x5ac635d8aa3a93e7b3ebbd55769886bc651d06b0cc53b0f63bce3c3e27d2604b
  order := 0xffffffff00000000ffffffffffffffffbce6faada7179e84f3b9cac2fc632551
  baseX := 0x6b17d1f2e12c4247f8bce6e563a440f277037d812deb33a0f4a13945d898c296
  baseY := 0x4fe342e2fe1a7f9b8ee7eb4a7c0f9e162bce33576b315ececbb6406837bf51f5
  size := 32

def p384 : Weierstrass where
  prime := 0xfffffffffffffffffffffffffffffffffffffffffffffffffffffffffffffffeffffffff0000000000000000ffffffff
  b := 0xb3312fa7e23ee7e4988e056be3f82d19181d9c6efe8141120314088f5013875ac656398d8a2ed19d2a85c8edd3ec2aef
  order := 0xffffffffffffffffffffffffffffffffffffffffffffffffc7634d81f4372ddf581a0db248b0a77aecec196accc52973
  baseX := 0xaa87ca22be8b05378eb1c71ef320ad746e1d3b628ba79b9859f741e082542a385502f25dbf55296c3a545e3872760ab7
  baseY := 0x3617de4a96262c6f5d9e98bf9292dc29f8f41dbd289a147ce9da3113b5f0b8c00a60b1ce1d7e819d7a431d7c90ea0e5f
  size := 48

/-- Whether a pair of coordinates lies on the curve. -/
def holds (c : Weierstrass) (x y : Nat) : Bool :=
  decide (x < c.prime) && decide (y < c.prime) &&
    (y * y + 3 * x) % c.prime == (x * x * x + c.b) % c.prime

/-- Whether bytes are a point: a mark for two coordinates in full, and the coordinates. -/
def isPoint (c : Weierstrass) (bs : Bytes) : Bool :=
  decide (bs.length = 2 * c.size + 1) && bs.head? == some 4 &&
    c.holds (Bytes.toNat ((bs.drop 1).take c.size)) (Bytes.toNat (bs.drop (1 + c.size)))

/-- A point, or the one at infinity where `z` is zero. -/
structure Point where
  x : Nat
  y : Nat
  z : Nat

def infinity : Point := ⟨1, 1, 0⟩

/-- The generating point. -/
def base (c : Weierstrass) : Point := ⟨c.baseX, c.baseY, 1⟩

/-- Twice a point. -/
def double (c : Weierstrass) (a : Point) : Point :=
  let p := c.prime
  let delta := a.z * a.z % p
  let gamma := a.y * a.y % p
  let beta := a.x * gamma % p
  let alpha := 3 * Modular.sub p a.x delta * (a.x + delta) % p
  let x := Modular.sub p (alpha * alpha) (8 * beta)
  { x
    y := Modular.sub p (alpha * Modular.sub p (4 * beta) x) (8 * gamma * gamma)
    z := Modular.sub p ((a.y + a.z) * (a.y + a.z)) (gamma + delta) }

/-- The sum of two points. -/
def add (c : Weierstrass) (a b : Point) : Point :=
  let p := c.prime
  if a.z = 0 then b
  else if b.z = 0 then a
  else
    let za := a.z * a.z % p
    let zb := b.z * b.z % p
    let ua := a.x * zb % p
    let ub := b.x * za % p
    let sa := a.y * b.z * zb % p
    let sb := b.y * a.z * za % p
    if ua = ub then if sa = sb then c.double a else infinity
    else
      let h := Modular.sub p ub ua
      let r := Modular.sub p sb sa
      let hh := h * h % p
      let hhh := h * hh % p
      let v := ua * hh % p
      let x := Modular.sub p (r * r) (hhh + 2 * v)
      { x, y := Modular.sub p (r * Modular.sub p v x) (sa * hhh), z := a.z * b.z * h % p }

/-- A multiple of a point, for factors of at most so many bits. -/
def timesWithin (c : Weierstrass) (a : Point) : (bits : Nat) → (factor : Nat) → Point
  | 0, _ => infinity
  | bits + 1, n =>
    let twice := c.double (timesWithin c a bits (n / 2))
    if n % 2 = 1 then c.add twice a else twice

/-- A multiple of a point. -/
def times (c : Weierstrass) (a : Point) (n : Nat) : Point :=
  c.timesWithin a (Modular.bitLength n) n

/-- The bytes of a point that is not at infinity. -/
def encode (c : Weierstrass) (a : Point) : Bytes :=
  let i := Modular.inverse c.prime a.z
  let ii := i * i % c.prime
  4 :: Bytes.ofNat c.size (a.x * ii % c.prime) ++ Bytes.ofNat c.size (a.y * i * ii % c.prime)

/-- The public point of a secret number: of the right size, not zero, and below the order. -/
def publicPoint? (c : Weierstrass) (secret : Bytes) : Option Bytes :=
  let n := Bytes.toNat secret
  if secret.length = c.size ∧ 0 < n ∧ n < c.order then some (c.encode (c.times c.base n)) else none

/-- What a secret number and the point of another agree on: the first coordinate of the multiple. -/
def agree? (c : Weierstrass) (secret point : Bytes) : Option Bytes :=
  if c.isPoint point then
    let x := Bytes.toNat ((point.drop 1).take c.size)
    let y := Bytes.toNat (point.drop (1 + c.size))
    some (((c.encode (c.times ⟨x, y, 1⟩ (Bytes.toNat secret))).drop 1).take c.size)
  else none

end Weierstrass

end StreamHost.Crypto
