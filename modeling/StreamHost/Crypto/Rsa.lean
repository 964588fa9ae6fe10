import StreamHost.Crypto.Modular

/-!
The numbers of an RSA key, and which of them make a key that can be used. Where a law would need the
factors of other numbers, only the sizes are checked.
-/

namespace StreamHost.Crypto

/-- The numbers of a private key. -/
structure Rsa where
  /-- The product of the two primes. -/
  modulus : Nat
  publicExponent : Nat
  privateExponent : Nat
  firstPrime : Nat
  secondPrime : Nat
  /-- The private exponent below the first prime. -/
  firstExponent : Nat
  /-- The private exponent below the second prime. -/
  secondExponent : Nat
  /-- The inverse of the second prime modulo the first. -/
  coefficient : Nat
  deriving DecidableEq, Repr

namespace Rsa

/-- The least and the largest size of a modulus, in bits. -/
def leastBits : Nat := 2048
def mostBits : Nat := 4096

/-- Sizes of primes are multiples of this. -/
def primeGrain : Nat := 512

/-- The least and the largest public exponent. -/
def leastExponent : Nat := 65537
def mostExponent : Nat := 8589934591

def isOdd (n : Nat) : Bool := n % 2 == 1

/-- Whether the public numbers can be used. A size counts in whole bytes where it is compared with the
least one. -/
def isPublicUsable (k : Rsa) : Bool :=
  let bits := Modular.bitLength k.modulus
  isOdd k.modulus && decide (leastBits ≤ (bits + 7) / 8 * 8) && decide (bits ≤ mostBits) &&
    isOdd k.publicExponent && decide (leastExponent ≤ k.publicExponent) &&
    decide (k.publicExponent ≤ mostExponent)

/-- Whether the primes have half the size of the modulus, which they divide together. -/
def arePrimesUsable (k : Rsa) : Bool :=
  let half := (Modular.bitLength k.modulus + 1) / 2
  Modular.bitLength k.firstPrime == half && Modular.bitLength k.secondPrime == half &&
    half % primeGrain == 0 && isOdd k.firstPrime && isOdd k.secondPrime &&
    k.firstPrime * k.secondPrime % k.modulus == 0

/-- Whether the private numbers fit the primes. -/
def arePrivatesUsable (k : Rsa) : Bool :=
  let half := (Modular.bitLength k.modulus + 1) / 2
  decide (half < Modular.bitLength k.privateExponent) && decide (k.privateExponent < k.modulus) &&
    isOdd k.privateExponent &&
    decide (k.firstExponent < k.firstPrime) && isOdd k.firstExponent &&
    decide (k.secondExponent < k.secondPrime) && isOdd k.secondExponent &&
    decide (k.coefficient < k.firstPrime) && k.coefficient * k.secondPrime % k.firstPrime == 1

/-- Whether the numbers make a key that can be used. -/
def isUsable (k : Rsa) : Bool := k.isPublicUsable && k.arePrimesUsable && k.arePrivatesUsable

/-- The key of two primes, with the least public exponent. -/
def ofPrimes (p q : Nat) : Rsa :=
  let e := leastExponent
  let phi := (p - 1) * (q - 1)
  -- the multiple of `phi` that is one below a multiple of the exponent
  let d := (phi * (e - Modular.inverse e phi) + 1) / e
  { modulus := p * q
    publicExponent := e
    privateExponent := d
    firstPrime := p
    secondPrime := q
    firstExponent := d % (p - 1)
    secondExponent := d % (q - 1)
    coefficient := Modular.inverse p q }

end Rsa

end StreamHost.Crypto
