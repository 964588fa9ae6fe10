import StreamHost.Crypto.Weierstrass
import StreamHost.Tls.Der

/-!
Public keys, as certificates state them and as private keys contain them. A certificate and a private
key belong together when the certificate states the public half of the key, byte for byte.
-/

namespace StreamHost.Tls

/-- What a key signs with. -/
inductive KeyAlgorithm where
  | ecdsa | rsa | ed25519
  deriving DecidableEq, Repr

/-- The curves that keys may lie on. -/
inductive Curve where
  | p256 | p384
  deriving DecidableEq, Repr

/-- The numbers of a curve. -/
def Curve.numbers : Curve → Crypto.Weierstrass
  | .p256 => .p256
  | .p384 => .p384

/-- A public key. -/
inductive PublicKey where
  | ecdsa (curve : Curve) (point : Bytes)
  | rsa (modulus exponent : Nat)
  | ed25519 (point : Bytes)
  deriving DecidableEq, Repr

namespace Oid

def ecPublicKey : Bytes := [0x2a, 0x86, 0x48, 0xce, 0x3d, 0x02, 0x01]
def p256 : Bytes := [0x2a, 0x86, 0x48, 0xce, 0x3d, 0x03, 0x01, 0x07]
def p384 : Bytes := [0x2b, 0x81, 0x04, 0x00, 0x22]
def rsaEncryption : Bytes := [0x2a, 0x86, 0x48, 0x86, 0xf7, 0x0d, 0x01, 0x01, 0x01]
def ed25519 : Bytes := [0x2b, 0x65, 0x70]

/-- The identifier of an extension, without its last part. -/
def extension : Bytes := [0x55, 0x1d]

end Oid

/-- The identifier of a curve. -/
def Curve.oid : Curve → Bytes
  | .p256 => Oid.p256
  | .p384 => Oid.p384

/-- What a key is made for. -/
inductive KeyKind where
  | curve (c : Curve)
  | rsa
  | ed25519
  deriving DecidableEq, Repr

/-- The parts of the identifier of a kind of key. -/
def KeyKind.identifier : KeyKind → Bytes
  | .curve c => Der.identifier Oid.ecPublicKey ++ Der.identifier c.oid
  | .rsa => Der.identifier Oid.rsaEncryption ++ Der.null
  | .ed25519 => Der.identifier Oid.ed25519

namespace PublicKey

def algorithm : PublicKey → KeyAlgorithm
  | ecdsa _ _ => .ecdsa
  | rsa _ _ => .rsa
  | ed25519 _ => .ed25519

def kind : PublicKey → KeyKind
  | ecdsa c _ => .curve c
  | rsa _ _ => .rsa
  | ed25519 _ => .ed25519

/-- The bytes of a signature. One made with a curve is a pair of numbers in a form of varying length, of
which this is the usual one. -/
def signatureSize : PublicKey → Nat
  | ecdsa .p256 _ => 71
  | ecdsa .p384 _ => 103
  | ed25519 _ => 64
  | rsa n _ => (n.log2 + 8) / 8

/-- The key itself, as it is stated. -/
def bytes : PublicKey → Bytes
  | ecdsa _ point => point
  | rsa n e => Der.sequence [Der.number n, Der.number e]
  | ed25519 point => point

/-- The content of a subject's public key field. -/
def subjectInfo (k : PublicKey) : Bytes :=
  Der.sequence [k.kind.identifier] ++ Der.bits k.bytes

end PublicKey

end StreamHost.Tls
