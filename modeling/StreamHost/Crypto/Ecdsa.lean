import StreamHost.Crypto.Hash
import StreamHost.Crypto.Weierstrass

/-!
Signatures with a curve. A signature is a pair of numbers below the order of the curve: the first coordinate
of a point that the signer drew, and a number that ties this point to the digest of the message and to the
secret. Whoever has the public point can find the drawn point again.
-/

namespace StreamHost.Crypto.Weierstrass

/-- The two numbers of a signature. -/
structure Signature where
  r : Nat
  s : Nat
  deriving DecidableEq, Repr

/-- The number that stands for a digest: as many of its bytes as the order has. -/
def digestNumber (c : Weierstrass) (digest : Bytes) : Nat := Bytes.toNat (digest.take c.size) % c.order

/-- The first coordinate of a point that is not at infinity. -/
def firstCoordinate (c : Weierstrass) (a : Point) : Nat :=
  let i := Modular.inverse c.prime a.z
  a.x * (i * i % c.prime) % c.prime

/-- Whether a number may be part of a signature. -/
def isFactor (c : Weierstrass) (n : Nat) : Bool := decide (0 < n) && decide (n < c.order)

/-- Whether a signature belongs to a digest and a public point. -/
def verifies (c : Weierstrass) (point digest : Bytes) (g : Signature) : Bool :=
  c.isPoint point && c.isFactor g.r && c.isFactor g.s &&
    let w := Modular.inverse c.order g.s
    let point : Point := ⟨Bytes.toNat ((point.drop 1).take c.size), Bytes.toNat (point.drop (1 + c.size)), 1⟩
    let drawn := c.add (c.times c.base (c.digestNumber digest * w % c.order))
      (c.times point (g.r * w % c.order))
    drawn.z != 0 && c.firstCoordinate drawn % c.order == g.r

/-- What a signer draws: a number that follows from the secret and the digest. -/
def drawn (c : Weierstrass) (secret digest : Bytes) : Nat :=
  1 + Bytes.toNat (Hash.sha512.digest (secret ++ digest)) % (c.order - 1)

/-- The signature of a digest with a secret number. -/
def sign (c : Weierstrass) (secret digest : Bytes) : Signature :=
  let k := c.drawn secret digest
  let r := c.firstCoordinate (c.times c.base k) % c.order
  let s := Modular.inverse c.order k * (c.digestNumber digest + r * Bytes.toNat secret) % c.order
  ⟨r, s⟩

end StreamHost.Crypto.Weierstrass
