import StreamHost.Tls.PublicKey

/-!
Certificates: who issued one, for whom, with which public key, for how long, and for which host names and
addresses. Of the extensions some are remembered, each once, and others are ignored; a critical one among
them is only allowed to those who are trusted.
-/

namespace StreamHost.Tls

/-- What the library reads from a certificate. Fields are kept as they are written, without tag and length;
of an extension, what its sequence holds. -/
structure Certificate where
  issuer : Bytes
  subject : Bytes
  /-- The public key field. -/
  keyInfo : Bytes
  /-- When it begins and ends to be valid. -/
  validity : Bytes := []
  names : Option Bytes := none
  constraints : Option Bytes := none
  /-- What the key may be used for. -/
  purposes : Option Bytes := none
  /-- The bounds of the names that an authority may give. -/
  bounds : Option Bytes := none
  /-- The part that is signed, with tag and length. -/
  signed : Bytes := []
  /-- The way of signing. -/
  algorithm : Bytes := []
  signature : Bytes := []
  deriving DecidableEq, Repr

namespace Certificate

/-- Why bytes are no certificate. -/
inductive Flaw where
  | encoding
  | version
  /-- The signed part and the signature name different algorithms. -/
  | signatureAlgorithm
  | repeatedExtension
  | criticalExtension
  deriving DecidableEq, Repr

/-- How a flaw is named. -/
def Flaw.name : Flaw → String
  | encoding => "BadEncoding"
  | version => "Other(OtherError(UnsupportedCertVersion))"
  | signatureAlgorithm => "Other(OtherError(SignatureAlgorithmMismatch))"
  | repeatedExtension => "Other(OtherError(ExtensionValueInvalid))"
  | criticalExtension => "Other(OtherError(UnsupportedCriticalExtension))"

/-- What can be read, or a flaw of the encoding. -/
def readable {α : Type} : Option α → Except Flaw α
  | some a => .ok a
  | none => .error .encoding

/-! ## Extensions -/

def keyUsage : UInt8 := 15
def alternativeName : UInt8 := 17
def basicConstraints : UInt8 := 19
def nameConstraints : UInt8 := 30
def distributionPoints : UInt8 := 31
def extendedKeyUsage : UInt8 := 37

/-- The extensions that are remembered, by the last part of their identifiers. -/
def remembered : List UInt8 :=
  [keyUsage, alternativeName, basicConstraints, nameConstraints, distributionPoints, extendedKeyUsage]

/-- An extension as it is written. -/
structure Extension where
  id : Bytes
  critical : Bool
  value : Bytes

/-- A truth value, if one stands at the front, and what follows it. -/
def flag? (bs : Bytes) : Option (Bool × Bytes) :=
  if bs.head? = some Der.booleanTag then
    match Der.take? Der.booleanTag bs with
    | some ([0xff], rest) => some (true, rest)
    | some ([0x00], rest) => some (false, rest)
    | _ => none
  else some (false, bs)

/-- The extension in the content of its sequence. -/
def Extension.read? (bs : Bytes) : Option Extension := do
  let (id, rest) ← Der.take? Der.oidTag bs
  let (critical, rest) ← flag? rest
  let value ← Der.all Der.octetStringTag rest
  return ⟨id, critical, value⟩

/-- The number of an extension that is remembered. -/
def Extension.number? (e : Extension) : Option UInt8 :=
  remembered.find? fun n => e.id = Oid.extension ++ [n]

/-- What is remembered of an extension: the content of its sequence, or for the use of the key the bytes as
they are. -/
def Extension.content? (e : Extension) (number : UInt8) : Option Bytes :=
  if number = keyUsage then some e.value else Der.all Der.sequenceTag e.value

/-- Remembers an extension. One that is critical and cannot be remembered is a flaw if the reading is
strict. -/
def remember (strict : Bool) (known : List (UInt8 × Bytes)) (e : Extension) :
    Except Flaw (List (UInt8 × Bytes)) :=
  match e.number? with
  | none => if strict && e.critical then .error .criticalExtension else .ok known
  | some n =>
    if (known.lookup n).isSome then .error .repeatedExtension
    else do return (n, ← readable (e.content? n)) :: known

/-- Remembers all extensions; `fuel` bounds their number. -/
def rememberUpTo (strict : Bool) :
    (fuel : Nat) → List (UInt8 × Bytes) → Bytes → Except Flaw (List (UInt8 × Bytes))
  | _, known, [] => .ok known
  | 0, _, _ => .error .encoding
  | fuel + 1, known, bs => do
    let (content, rest) ← readable (Der.take? Der.sequenceTag bs)
    let e ← readable (Extension.read? content)
    rememberUpTo strict fuel (← remember strict known e) rest

/-- What is remembered of the extensions, of which each takes at least two bytes. -/
def rememberAll (strict : Bool) (bs : Bytes) : Except Flaw (List (UInt8 × Bytes)) :=
  rememberUpTo strict bs.length [] bs

/-! ## Reading -/

/-- The signed part, the algorithm of the signature, and the signature. -/
def parts? (der : Bytes) : Option (Bytes × Bytes × Bytes) := do
  let outer ← Der.all Der.sequenceTag der
  let (signed, rest) ← Der.take? Der.sequenceTag outer
  let (algorithm, rest) ← Der.take? Der.sequenceTag rest
  let signature ← Der.wholeBits? (← Der.all Der.bitStringTag rest)
  return (signed, algorithm, signature)

/-- Reads the version, which must be the third one, and gives what follows it. -/
def afterVersion (signed : Bytes) : Except Flaw Bytes :=
  match Der.take? (Der.contextTag 0) signed with
  | none => .error .version
  | some (inner, rest) => do
    let (version, behind) ← readable (Der.number? inner)
    if 255 < version then throw .encoding
    else if version = 2 ∧ behind.isEmpty then return rest
    else throw .version

/-- The fields between the algorithm and the extensions: issuer, validity, subject and public key. -/
def parties? (bs : Bytes) : Option (Certificate × Bytes) := do
  let (issuer, rest) ← Der.take? Der.sequenceTag bs
  let (validity, rest) ← Der.take? Der.sequenceTag rest
  let (subject, rest) ← Der.take? Der.sequenceTag rest
  let (keyInfo, rest) ← Der.take? Der.sequenceTag rest
  return ({ issuer, validity, subject, keyInfo }, rest)

/-- What is remembered of the extensions at the end of the signed part. -/
def extensions (strict : Bool) (bs : Bytes) : Except Flaw (List (UInt8 × Bytes)) :=
  if bs.isEmpty then .ok []
  else do
    let (outer, rest) ← readable (Der.take? (Der.contextTag 3) bs)
    let (all, behind) ← readable (Der.take? Der.sequenceTag outer)
    let known ← rememberAll strict all
    if rest.isEmpty && behind.isEmpty then return known else throw .encoding

/-- The certificate that some bytes encode. -/
def read (strict : Bool) (der : Bytes) : Except Flaw Certificate := do
  let (signed, algorithm, signature) ← readable (parts? der)
  let rest ← afterVersion signed
  let (_, rest) ← readable (Der.take? Der.integerTag rest)
  let (named, rest) ← readable (Der.take? Der.sequenceTag rest)
  if named ≠ algorithm then throw .signatureAlgorithm
  let (c, rest) ← readable (parties? rest)
  let known ← extensions strict rest
  return { c with
    names := known.lookup alternativeName
    constraints := known.lookup basicConstraints
    purposes := known.lookup extendedKeyUsage
    bounds := known.lookup nameConstraints
    signed := Der.encode Der.sequenceTag signed
    algorithm, signature }

/-- The certificate that some bytes encode. -/
def ofDer (der : Bytes) : Except Flaw Certificate := read true der

/-- The certificate that some bytes encode. -/
def ofDer? (der : Bytes) : Option Certificate := (ofDer der).toOption

/-- A certificate of the first version, which has no number for it and no extensions. -/
def ofOldDer? (der : Bytes) : Option Certificate := do
  let outer ← Der.all Der.sequenceTag der
  let (signed, rest) ← Der.take? Der.sequenceTag outer
  let (_, rest) ← Der.take? Der.sequenceTag rest
  let _ ← Der.all Der.bitStringTag rest
  let (_, rest) ← Der.take? Der.integerTag signed
  let (_, rest) ← Der.take? Der.sequenceTag rest
  let (c, rest) ← parties? rest
  if rest.isEmpty then some c else none

/-- The certificate of somebody who is trusted. It may be of the first version, or have extensions that are
critical and not known. -/
def ofTrustedDer (der : Bytes) : Except Flaw Certificate :=
  match read false der with
  | .error .version => readable (ofOldDer? der)
  | r => r

end Certificate

end StreamHost.Tls
