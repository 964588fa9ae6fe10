import StreamHost.Crypto.Montgomery
import StreamHost.Crypto.Weierstrass

/-!
The groups in which two sides agree on a secret. Each side draws a secret of its own and encloses the point
that belongs to it; `Group.agree?` gives what both find, unless the other point is none that a secret can be
agreed on with.
-/

namespace StreamHost.Tls

inductive Group where
  | x25519 | p256 | p384
  deriving DecidableEq, Repr

namespace Group

/-- The number on the wire. -/
def code : Group → Nat
  | x25519 => 0x001d
  | p256 => 0x0017
  | p384 => 0x0018

/-- All groups, best first. -/
def preferred : List Group := [x25519, p256, p384]

/-- The group with a number. -/
def ofCode? (n : Nat) : Option Group := preferred.find? fun g => g.code == n

/-- What a side draws for this exchange. Nothing that a handshake settles depends on it. -/
def drawn : Group → Bytes
  | x25519 | p256 => List.replicate 32 0x2a
  | p384 => List.replicate 48 0x2a

/-- The point that a side encloses. -/
def share : Group → Bytes
  | x25519 => Crypto.Montgomery.publicPoint (drawn .x25519)
  | p256 => (Crypto.Weierstrass.p256.publicPoint? (drawn .p256)).getD []
  | p384 => (Crypto.Weierstrass.p384.publicPoint? (drawn .p384)).getD []

/-- What a side agrees on with the one that enclosed a point. -/
def agree? (g : Group) (point : Bytes) : Option Bytes :=
  match g with
  | x25519 => Crypto.Montgomery.agree? (drawn .x25519) point
  | p256 => Crypto.Weierstrass.p256.agree? (drawn .p256) point
  | p384 => Crypto.Weierstrass.p384.agree? (drawn .p384) point

theorem mem_preferred (g : Group) : g ∈ preferred := by cases g <;> decide

theorem ofCode?_code (g : Group) : ofCode? g.code = some g := by cases g <;> decide

end Group

end StreamHost.Tls
