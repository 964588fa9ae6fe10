/-!
Arithmetic with remainders. `pow_eq` says that the fast power is the power.
-/

namespace StreamHost.Crypto.Modular

/-- A power by repeated squaring, for exponents of at most so many bits. -/
def powWithin (modulus : Nat) : (bits : Nat) → (base exponent : Nat) → Nat
  | 0, _, _ => 1 % modulus
  | bits + 1, base, exponent =>
    let square := powWithin modulus bits (base * base % modulus) (exponent / 2)
    if exponent % 2 = 1 then square * base % modulus else square

/-- How many bits a number has. -/
def bitLength (n : Nat) : Nat := if n = 0 then 0 else n.log2 + 1

/-- A power. -/
def pow (modulus base exponent : Nat) : Nat := powWithin modulus (bitLength exponent) base exponent

/-- The inverse of a number modulo a prime. -/
def inverse (prime n : Nat) : Nat := pow prime n (prime - 2)

/-- A difference; the second number may be the larger one. -/
def sub (modulus a b : Nat) : Nat := (a + (modulus - b % modulus)) % modulus

theorem powWithin_eq (m bits b e : Nat) (h : e < Nat.pow 2 bits) :
    powWithin m bits b e = Nat.pow b e % m := by
  induction bits generalizing b e with
  | zero =>
    have : e = 0 := by simpa using h
    simp [powWithin, this]
  | succ bits ih =>
    have half : e / 2 < Nat.pow 2 bits := by
      have : Nat.pow 2 (bits + 1) = Nat.pow 2 bits * 2 := rfl
      omega
    have square : Nat.pow (b * b % m) (e / 2) % m = Nat.pow b (2 * (e / 2)) % m := by
      have twice := Nat.pow_mul b 2 (e / 2)
      rw [Nat.pow_two] at twice
      exact (Nat.pow_mod (b * b) (e / 2) m).symm.trans (congrArg (· % m) twice.symm)
    unfold powWithin
    simp only [ih _ _ half, square]
    split
    · have exponent : 2 * (e / 2) + 1 = e := by omega
      have power : Nat.pow b (2 * (e / 2)) * b = Nat.pow b e := by
        rw [← show Nat.pow b (2 * (e / 2) + 1) = Nat.pow b (2 * (e / 2)) * b from rfl, exponent]
      rw [Nat.mod_mul_mod, power]
    · have exponent : 2 * (e / 2) = e := by omega
      rw [exponent]

/-- The power that is computed is the remainder of the power. -/
theorem pow_eq (m b e : Nat) : pow m b e = Nat.pow b e % m := by
  apply powWithin_eq
  unfold bitLength
  split
  · simp_all
  · exact Nat.lt_log2_self

end StreamHost.Crypto.Modular
