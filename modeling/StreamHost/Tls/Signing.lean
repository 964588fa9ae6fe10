import StreamHost.Crypto.Ecdsa
import StreamHost.Crypto.Edwards
import StreamHost.Crypto.RsaSignature
import StreamHost.Tls.PublicKey

/-!
How certificates are signed. A certificate names the way in which it is signed; the key of the issuer has to
be of a kind that goes with it.
-/

namespace StreamHost.Tls

open StreamHost.Crypto (Hash Weierstrass RsaPublic)

/-- A way of signing. -/
inductive Signing where
  | curve (h : Hash)
  | ed25519
  /-- With RSA and a mask. -/
  | masked (h : Hash)
  /-- With RSA and a fixed filling; the identifier may leave its empty parameters out. -/
  | filled (h : Hash) (bare : Bool)
  deriving DecidableEq, Repr

namespace Signing

/-- The end of the identifier of a signature with a curve. -/
def curveMark : Hash → UInt8
  | .sha256 => 2
  | .sha384 => 3
  | .sha512 => 4

/-- The end of the identifier of a signature with RSA. -/
def filledMark : Hash → UInt8
  | .sha256 => 11
  | .sha384 => 12
  | .sha512 => 13

/-- The end of the identifier of a digest. -/
def digestMark : Hash → UInt8
  | .sha256 => 1
  | .sha384 => 2
  | .sha512 => 3

/-- The identifiers under which those of signatures and digests are found. -/
def ecdsaRoot : Bytes := [0x2a, 0x86, 0x48, 0xce, 0x3d, 0x04, 0x03]
def rsaRoot : Bytes := [0x2a, 0x86, 0x48, 0x86, 0xf7, 0x0d, 0x01, 0x01]
def digestRoot : Bytes := [0x60, 0x86, 0x48, 0x01, 0x65, 0x03, 0x04, 0x02]

/-- The parameters of a signature with a mask: the digest, the digest of the mask, and the size of the salt. -/
def maskParameters (h : Hash) : Bytes :=
  let digest := Der.sequence [Der.identifier (digestRoot ++ [digestMark h]), Der.null]
  Der.sequence [Der.encode (Der.contextTag 0) digest,
    Der.encode (Der.contextTag 1) (Der.sequence [Der.identifier (rsaRoot ++ [8]), digest]),
    Der.encode (Der.contextTag 2) (Der.number h.size)]

/-- The parts of the identifier of a way of signing. -/
def identifier : Signing → Bytes
  | curve h => Der.identifier (ecdsaRoot ++ [curveMark h])
  | ed25519 => Der.identifier Oid.ed25519
  | masked h => Der.identifier (rsaRoot ++ [10]) ++ maskParameters h
  | filled h bare => Der.identifier (rsaRoot ++ [filledMark h]) ++ if bare then [] else Der.null

/-- The kinds of keys that go with a way of signing. -/
def kinds : Signing → List KeyKind
  | curve _ => [.curve .p256, .curve .p384]
  | ed25519 => [.ed25519]
  | masked _ | filled _ _ => [.rsa]

/-- The ways of signing that are known, in the order in which they are tried. -/
def known : List Signing :=
  [curve .sha256, curve .sha384, ed25519, masked .sha256, masked .sha384, masked .sha512,
    filled .sha256 false, filled .sha384 false, filled .sha512 false,
    filled .sha256 true, filled .sha384 true, filled .sha512 true]

/-- The way of signing with an identifier. -/
def ofIdentifier? (id : Bytes) : Option Signing := known.find? fun s => s.identifier == id

/-- The two numbers of a signature with a curve. -/
def pair? (bs : Bytes) : Option Weierstrass.Signature := do
  let (ns, rest) ← Der.numbers? 2 (← Der.all Der.sequenceTag bs)
  match ns, rest with
  | [r, s], [] => some ⟨r, s⟩
  | _, _ => none

/-- The public numbers of an RSA key. -/
def rsaPublic? (key : Bytes) : Option RsaPublic := do
  let (ns, rest) ← Der.numbers? 2 (← Der.all Der.sequenceTag key)
  match ns, rest with
  | [n, e], [] => some ⟨n, e⟩
  | _, _ => none

/-- Whether a signature belongs to a message and the key of its signer, which is of some kind. -/
def verifies (s : Signing) (kind : KeyKind) (key message signature : Bytes) : Bool :=
  match s, kind with
  | curve h, .curve c => (pair? signature).any (c.numbers.verifies key (h.digest message))
  | ed25519, .ed25519 => Crypto.Edwards.verifies key message signature
  | masked h, .rsa => (rsaPublic? key).any (·.verifiesMasked h message signature)
  | filled h _, .rsa => (rsaPublic? key).any (·.verifiesFilled h message signature)
  | _, _ => false

/-- Why a signature does not count. -/
inductive Fault where
  /-- The key of the signer is malformed. -/
  | key
  /-- The way of signing is not known. -/
  | unknown (id : Bytes)
  /-- The key of the signer is of a kind that does not go with the way of signing. -/
  | otherKey (id keyId : Bytes)
  | wrong
  deriving DecidableEq, Repr

/-- Judges a signature with the public key field of its signer. -/
def check (id keyInfo message signature : Bytes) : Except Fault Unit :=
  match ofIdentifier? id with
  | none => .error (.unknown id)
  | some s =>
    match (Der.take? Der.sequenceTag keyInfo).bind fun (keyId, rest) =>
        ((Der.all Der.bitStringTag rest).bind Der.wholeBits?).map fun key => (keyId, key) with
    | none => .error .key
    | some (keyId, key) =>
      match s.kinds.find? fun k => k.identifier == keyId with
      | none => .error (.otherKey id keyId)
      | some kind => if s.verifies kind key message signature then .ok () else .error .wrong

end Signing

end StreamHost.Tls
