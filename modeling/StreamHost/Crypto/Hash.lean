import StreamHost.Crypto.Sha256
import StreamHost.Crypto.Sha512

/-!
The digests that signatures are made of, with their sizes.
-/

namespace StreamHost.Crypto

inductive Hash where
  | sha256 | sha384 | sha512
  deriving DecidableEq, Repr

namespace Hash

/-- The digest of a message. -/
def digest : Hash → Bytes → Bytes
  | sha256 => Sha256.digest
  | sha384 => Sha512.digest384
  | sha512 => Sha512.digest

/-- The bytes of a digest. -/
def size : Hash → Nat
  | sha256 => 32
  | sha384 => 48
  | sha512 => 64

theorem length_digest (h : Hash) (message : Bytes) : (h.digest message).length = h.size := by
  cases h
  · exact Sha256.length_digest message
  · exact Sha512.length_digest384 message
  · exact Sha512.length_digest message

end Hash

end StreamHost.Crypto
