import StreamHost.Crypto.Edwards
import StreamHost.Crypto.Rsa
import StreamHost.Tls.PublicKey

/-!
Private keys: the form in which a file holds one, and the public half of the key inside. A key whose
numbers do not belong together, or that states another public half than its own, is none.
-/

namespace StreamHost.Tls

/-- The forms in which a private key is written. -/
inductive KeyForm where
  | pkcs8 | pkcs1 | sec1
  deriving DecidableEq, Repr

def KeyForm.name : KeyForm → String
  | .pkcs8 => "pkcs8"
  | .pkcs1 => "pkcs1"
  | .sec1 => "sec1"

/-- A private key as it is written. -/
structure PrivateKey where
  form : KeyForm
  der : Bytes
  deriving DecidableEq, Repr

namespace PrivateKey

/-- The numbers of an RSA key behind a version. -/
def rsaNumbers? (der : Bytes) : Option Crypto.Rsa := do
  let (ns, rest) ← Der.numbers? 9 (← Der.all Der.sequenceTag der)
  match ns, rest with
  | [0, n, e, d, p, q, dp, dq, qi], [] => return ⟨n, e, d, p, q, dp, dq, qi⟩
  | _, _ => none

/-- The content of an RSA key. -/
def rsaKey? (der : Bytes) : Option PublicKey := do
  let k ← rsaNumbers? der
  if k.isUsable then some (.rsa k.modulus k.publicExponent) else none

/-- The content of a key on a curve. It must state its public half, and may state its curve. -/
def ecKey? (curve : Curve) (der : Bytes) : Option PublicKey := do
  let fields ← Der.all Der.sequenceTag der
  let (version, rest) ← Der.number? fields
  let (secret, rest) ← Der.take? Der.octetStringTag rest
  let (named, rest) := Der.optional (Der.contextTag 0) rest
  let stated ← Der.wholeBits? (← Der.all Der.bitStringTag (← Der.all (Der.contextTag 1) rest))
  let point ← curve.numbers.publicPoint? secret
  if version = 1 ∧ named.all (· = Der.identifier curve.oid) ∧ stated = point then
    some (.ecdsa curve point)
  else none

/-- The content of an Ed25519 key: a seed in a wrapping of its own. A public half that is stated must be the
right one. -/
def edKey? (der : Bytes) (stated : Option Bytes) : Option PublicKey := do
  let seed ← Der.all Der.octetStringTag der
  if seed.length = Crypto.Edwards.size then
    let point := Crypto.Edwards.publicPoint seed
    if stated.all (· = point) then some (.ed25519 point) else none
  else none

/-- A key in a wrapping: the version of the wrapping, the key, and what follows its attributes. -/
def unwrap? (kind : KeyKind) (der : Bytes) : Option (Nat × Bytes × Bytes) := do
  let fields ← Der.all Der.sequenceTag der
  let (version, rest) ← Der.number? fields
  let (id, rest) ← Der.take? Der.sequenceTag rest
  let (key, rest) ← Der.take? Der.octetStringTag rest
  if id = kind.identifier then some (version, key, (Der.optional (Der.contextTag 0) rest).2) else none

/-- A key of a kind in a wrapping without a public half. -/
def unwrapAlone? (kind : KeyKind) (der : Bytes) : Option Bytes :=
  match unwrap? kind der with
  | some (0, key, []) => some key
  | _ => none

/-- The public half behind a wrapped key: a bit string, with a tag of its own or inside one. -/
def statedPoint? (bs : Bytes) : Option Bytes :=
  ((Der.all 0x81 bs).orElse fun _ =>
    (Der.all (Der.contextTag 1) bs).bind (Der.all Der.bitStringTag)).bind Der.wholeBits?

/-- A wrapped Ed25519 key; the second version states the public half. -/
def wrappedEdKey? (der : Bytes) : Option PublicKey :=
  match unwrap? .ed25519 der with
  | some (0, key, []) => edKey? key none
  | some (1, key, rest) => do edKey? key (some (← statedPoint? rest))
  | _ => none

/-- The key in a wrapping that names what it is made for. -/
def wrappedKey? (der : Bytes) : Option PublicKey :=
  ((unwrapAlone? .rsa der).bind rsaKey?)
    |>.orElse fun _ => ((unwrapAlone? (.curve .p256) der).bind (ecKey? .p256))
    |>.orElse fun _ => ((unwrapAlone? (.curve .p384) der).bind (ecKey? .p384))
    |>.orElse fun _ => wrappedEdKey? der

/-- The public half of a key that can sign. -/
def publicKey? (k : PrivateKey) : Option PublicKey :=
  match k.form with
  | .pkcs1 => rsaKey? k.der
  | .pkcs8 => wrappedKey? k.der
  | .sec1 => (ecKey? .p256 k.der).orElse fun _ => ecKey? .p384 k.der

end PrivateKey

end StreamHost.Tls
