import StreamHost.Tls.Certificate
import StreamHost.Tls.Moment
import StreamHost.Tls.PrivateKey
import StreamHost.Tls.Signing
import StreamHost.Tls.SubjectName

/-!
Certificates and keys as they are written: the other side of their readers. The secret of a key is made from
the subject's name, and all certificates are valid over the same long time.
-/

namespace StreamHost.Tls

/-- Somebody who has a key and a certificate: a name, and what the certificate is made out for. -/
structure Issuance where
  subject : String
  kind : KeyKind := .curve .p256
  isAuthority : Bool := false
  dnsNames : List String := []
  ipAddresses : List Bytes := []
  deriving DecidableEq, Repr

namespace Issuance

/-- So many bytes made from the subject's name. -/
def fill (i : Issuance) (n : Nat) : Bytes := List.replicate n ((Bytes.ofText i.subject).headD 1)

/-- The RSA key of the two largest primes of 1024 bits. -/
def rsaKey : Crypto.Rsa := .ofPrimes (Nat.pow 2 1024 - 105) (Nat.pow 2 1024 - 179)

/-- The public half of the key. -/
def publicKey (i : Issuance) : PublicKey :=
  match i.kind with
  | .curve c => .ecdsa c ((c.numbers.publicPoint? (i.fill c.numbers.size)).getD [])
  | .rsa => .rsa rsaKey.modulus rsaKey.publicExponent
  | .ed25519 => .ed25519 (Crypto.Edwards.publicPoint (i.fill Crypto.Edwards.size))

/-- The content of the private key. -/
def secretPart (i : Issuance) : Bytes :=
  match i.kind with
  | .curve c =>
    Der.sequence [Der.number 1, Der.octets (i.fill c.numbers.size),
      Der.encode (Der.contextTag 1) (Der.bits i.publicKey.bytes)]
  | .rsa =>
    let k := rsaKey
    Der.sequence ([0, k.modulus, k.publicExponent, k.privateExponent, k.firstPrime, k.secondPrime,
      k.firstExponent, k.secondExponent, k.coefficient].map Der.number)
  | .ed25519 => Der.octets (i.fill Crypto.Edwards.size)

/-- The private key. -/
def privateKey (i : Issuance) : PrivateKey where
  form := .pkcs8
  der := Der.sequence [Der.number 0, Der.sequence [i.kind.identifier], Der.octets i.secretPart]

/-- One extension. -/
def extension (number : UInt8) (parts : List Bytes) : Bytes :=
  Der.sequence [Der.identifier (Oid.extension ++ [number]), Der.octets (Der.sequence parts)]

/-- The names of the subject. -/
def names (i : Issuance) : List Bytes :=
  i.dnsNames.map (fun n => Der.encode SubjectName.hostTag (Bytes.ofText n)) ++
    i.ipAddresses.map (Der.encode SubjectName.addressTag)

/-- The extension of an authority, and the names. -/
def extensions (i : Issuance) : List Bytes :=
  (if i.isAuthority then
    [extension Certificate.basicConstraints [Der.encode Der.booleanTag [0xff]]] else []) ++
    [extension Certificate.alternativeName i.names]

/-- The way of signing that goes with the key. -/
def signing (i : Issuance) : Signing :=
  match i.kind with
  | .curve .p256 => .curve .sha256
  | .curve .p384 => .curve .sha384
  | .rsa => .filled .sha256 false
  | .ed25519 => .ed25519

/-- The signature of a message with the key. -/
def sign (i : Issuance) (message : Bytes) : Bytes :=
  match i.kind with
  | .curve .p256 => curveSignature .p256 .sha256
  | .curve .p384 => curveSignature .p384 .sha384
  | .rsa =>
    let k : Crypto.RsaPublic := ⟨rsaKey.modulus, rsaKey.publicExponent⟩
    let form := (Crypto.RsaPublic.filled k.size .sha256 message).toNat
    Bytes.ofNat k.size (Crypto.Modular.pow k.modulus form rsaKey.privateExponent)
  | .ed25519 => Crypto.Edwards.sign (i.fill Crypto.Edwards.size) message
where
  curveSignature (c : Curve) (h : Crypto.Hash) : Bytes :=
    let g := c.numbers.sign (i.fill c.numbers.size) (h.digest message)
    Der.sequence [Der.number g.r, Der.number g.s]

/-- The first and the last year in which certificates are valid. -/
def firstYear : Nat := 1975
def lastYear : Nat := 4096

/-- The certificate that `issuer` signs. -/
def certificate (i issuer : Issuance) : Bytes :=
  let algorithm := Der.sequence [issuer.signing.identifier]
  let name (s : String) : Bytes := Der.sequence [Bytes.ofText s]
  let signed := Der.sequence [Der.encode (Der.contextTag 0) (Der.number 2), Der.number 1, algorithm,
    name issuer.subject,
    Der.sequence [Moment.encode firstYear 1 1, Moment.encode lastYear 1 1], name i.subject,
    Der.encode Der.sequenceTag i.publicKey.subjectInfo,
    Der.encode (Der.contextTag 3) (Der.sequence i.extensions)]
  Der.sequence [signed, algorithm, Der.bits (issuer.sign signed)]

end Issuance

end StreamHost.Tls
