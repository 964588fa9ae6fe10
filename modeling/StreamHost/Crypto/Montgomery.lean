import StreamHost.Bytes
import StreamHost.Crypto.Modular

/-!
The key agreement X25519. A point is known by its first coordinate alone; multiples are computed from pairs
of points that always differ by the same point. Points of small order are refused, since with them every
secret gives the same result: such a point becomes neutral when it is doubled three times.
-/

namespace StreamHost.Crypto.Montgomery

def prime : Nat := 0x7fffffffffffffffffffffffffffffffffffffffffffffffffffffffffffffed

/-- The parameter `A` of the curve `y² = x³ + A x² + x`. -/
def parameter : Nat := 486662

/-- The bytes of a point. -/
def size : Nat := 32

/-- The first coordinate of a point as a fraction; the neutral point has no denominator. -/
structure Point where
  x : Nat
  z : Nat

/-- Twice a point. -/
def double (a : Point) : Point :=
  let xx := a.x * a.x % prime
  let zz := a.z * a.z % prime
  let xz := a.x * a.z % prime
  let difference := Modular.sub prime xx zz
  ⟨difference * difference % prime, 4 * xz * (xx + parameter * xz + zz) % prime⟩

/-- The sum of two points whose difference is `base`. -/
def sum (base a b : Point) : Point :=
  let crossed := Modular.sub prime b.x b.z * (a.x + a.z) % prime
  let straight := (b.x + b.z) * Modular.sub prime a.x a.z % prime
  let total := crossed + straight
  let difference := Modular.sub prime crossed straight
  ⟨base.z * (total * total % prime) % prime, base.x * (difference * difference % prime) % prime⟩

/-- A multiple of a point and the next one, for factors of at most so many bits. -/
def timesWithin (base : Point) : (bits : Nat) → (factor : Nat) → Point × Point
  | 0, _ => (⟨1, 0⟩, base)
  | bits + 1, n =>
    let (a, b) := timesWithin base bits (n / 2)
    if n % 2 = 1 then (sum base a b, double b) else (double a, sum base a b)

/-- One more than the highest number of 255 bits. -/
def capacity : Nat := 0x8000000000000000000000000000000000000000000000000000000000000000

/-- The point that bytes stand for, the least byte first and without the highest bit. -/
def ofBytes (bs : Bytes) : Point := ⟨Bytes.toNat bs.reverse % capacity, 1⟩

/-- The bytes of a point that is not neutral. -/
def encode (a : Point) : Bytes :=
  (Bytes.ofNat size (a.x * Modular.inverse prime a.z % prime)).reverse

/-- The factor that a secret stands for: a multiple of eight with its highest bit at a fixed place. -/
def factor (secret : Bytes) : Nat :=
  let half := capacity / 2
  Bytes.toNat secret.reverse % half / 8 * 8 + half

/-- A multiple of a point. -/
def times (secret point : Bytes) : Bytes :=
  encode (timesWithin (ofBytes point) 255 (factor secret)).1

/-- Whether a point has a small order. -/
def isSmall (bs : Bytes) : Bool := (double (double (double (ofBytes bs)))).z == 0

/-- Whether bytes are a point that a secret can be agreed on with. -/
def isPoint (bs : Bytes) : Bool := decide (bs.length = size) && !isSmall bs

/-- The point that all multiples start from. -/
def base : Bytes := 9 :: List.replicate (size - 1) 0

/-- The point that belongs to a secret. -/
def publicPoint (secret : Bytes) : Bytes := times secret base

/-- What a secret and the point of another secret agree on. -/
def agree? (secret point : Bytes) : Option Bytes :=
  if isPoint point then some (times secret point) else none

end StreamHost.Crypto.Montgomery
