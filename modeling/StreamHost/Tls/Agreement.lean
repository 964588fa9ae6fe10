import StreamHost.Tls.Certificate
import StreamHost.Tls.Configuration
import StreamHost.Tls.Handshake

/-!
What a handshake agrees on. The server takes the highest version that both sides have, the first group of
the client that it has itself, the first suite of the client that it has itself and that fits its key, and
the first of its own protocols that the client offers. Each step gives what is agreed on or the reason why
nothing is; what is asked first tells which of several reasons counts.
-/

namespace StreamHost.Tls

structure Agreement where
  version : Version
  suite : Suite
  group : Group
  deriving DecidableEq, Repr

namespace Agreement

/-- The version that a server takes. A client that names none speaks version 1.2 at most. -/
def chooseVersion (mine : List Version) (o : Offer) : Except Failure Version :=
  let has (v : Version) : Bool := mine.contains v
  match o.versions with
  | some theirs =>
    if theirs.contains Version.v13.code ∧ has .v13 then .ok .v13
    else if theirs.contains Version.v12.code ∧ has .v12 then .ok .v12
    else .error (.incompatible "Tls12NotOfferedOrEnabled" .protocolVersion)
  | none =>
    if o.version < Version.v12.code then .error (.incompatible "Tls12NotOffered" .protocolVersion)
    else if has .v12 then .ok .v12
    else .error (.incompatible "SupportedVersionsExtensionRequired" .protocolVersion)

/-- The group for the exchange of keys: the client's order decides. -/
def chooseGroup (o : Offer) : Except Failure Group :=
  match o.groups.findSome? Group.ofCode? with
  | some g => .ok g
  | none => .error (.incompatible "NoKxGroupsInCommon" .handshakeFailure)

/-- The suite that a server takes: the client's order decides. -/
def chooseSuite (c : Configuration) (v : Version) (o : Offer) : Except Failure Suite :=
  let mine := c.suites.filter fun s => s.version == v && s.fits c.publicKey.algorithm
  match o.suites.findSome? fun n => mine.find? fun s => s.code == n with
  | some s => .ok s
  | none => .error (.incompatible "NoCipherSuitesInCommon" .handshakeFailure)

/-- What a server with configuration `c` agrees on with a client that offers `o`, before anything that hangs
on the version. -/
def choose (c : Configuration) (o : Offer) : Except Failure Agreement := do
  let version ← chooseVersion c.versions o
  let group ← chooseGroup o
  let suite ← chooseSuite c version o
  return { version, suite, group }

/-- The protocol that a server takes: its own order decides. An empty list on either side means none. -/
def chooseProtocol (mine : List Bytes) (theirs : Option (List Bytes)) :
    Except Failure (Option Bytes) :=
  match theirs with
  | none => .ok none
  | some theirs =>
    match mine.find? theirs.contains with
    | some p => .ok (some p)
    | none => if mine.isEmpty then .ok none else .error ⟨.noProtocol, some .noApplicationProtocol⟩

/-- The numbers of the kinds of certificates. Those that are bare keys this library does not have. -/
def fullCertificate : Nat := 0
def bareKey : Nat := 2

/-- The kind of certificates that a server names to a client with a list of kinds. A client that would only
have bare keys is refused. -/
def chooseCertificateType (theirs : List Nat) : Except Failure (Option Nat) :=
  if theirs.contains fullCertificate then .ok (some fullCertificate)
  else if theirs.contains bareKey then
    .error (.incompatible "UnsolicitedCertificateTypeExtension" .handshakeFailure)
  else .ok none

/-- What a server names beside version, suite and key. -/
structure Extras where
  protocol : Option Bytes
  /-- The kinds of certificates of the server and of the client. -/
  serverType : Option Nat
  clientType : Option Nat
  deriving DecidableEq, Repr

/-- What the server names beside version, suite and key. -/
def chooseExtras (c : Configuration) (o : Offer) : Except Failure Extras := do
  let protocol ← chooseProtocol c.alpn o.protocols
  let serverType ← chooseCertificateType o.serverCertificateTypes
  let clientType ← chooseCertificateType o.clientCertificateTypes
  return { protocol, serverType, clientType }

/-- The signatures that a key can make, best first. -/
def signatures (v : Version) : PublicKey → List Nat
  | .ecdsa .p256 _ => [0x0403]
  | .ecdsa .p384 _ => [0x0503]
  | .ed25519 _ => [0x0807]
  | .rsa _ _ =>
    [0x0806, 0x0805, 0x0804] ++ if v = .v13 then [] else [0x0601, 0x0501, 0x0401]

/-- The signatures that go with a suite. -/
def suiteSignatures : Suite → List Nat
  | .v13 _ => [0x0503, 0x0403, 0x0603, 0x0807, 0x0806, 0x0805, 0x0804]
  | .ecdsa _ => [0x0807, 0x0603, 0x0503, 0x0403]
  | .rsa _ => [0x0806, 0x0805, 0x0804, 0x0601, 0x0501, 0x0401]

/-- The signature that a server of version 1.3 makes. -/
def sign13 (c : Configuration) (offered : List Nat) : Except Failure Nat :=
  match (signatures .v13 c.publicKey).find? offered.contains with
  | some n => .ok n
  | none => .error (.incompatible "NoSignatureSchemesInCommon" .handshakeFailure)

/-- The signature that a server of version 1.2 makes. -/
def sign12 (c : Configuration) (s : Suite) (offered : List Nat) : Except Failure Nat :=
  let offered := offered.filter (suiteSignatures s).contains
  match (signatures .v12 c.publicKey).find? offered.contains with
  | some n => .ok n
  | none => .error ⟨.unfit "incompatible signing key", none⟩

/-- The way to resume an earlier session with a fresh exchange of keys. -/
def withExchange : Nat := 1

/-- What an offer of earlier sessions has to hold. No such session is ever taken up. -/
def screenPreshared (o : Offer) : Except Failure Unit :=
  match o.preshared with
  | none => .ok ()
  | some p =>
    if o.presharedModes.isNone then .error (.misbehaved "MissingPskModesExtension" .missingExtension)
    else if p.proofs ≠ p.identities then
      .error (.misbehaved "PskExtensionWithMismatchedIdsAndBinders" .illegalParameter)
    else .ok ()

/-- The key that a client of version 1.3 encloses for a group; `none` means that it has to be asked for one,
which may happen once (`again` tells that it did). -/
def share13 (g : Group) (again : Bool) (o : Offer) : Except Failure (Option Bytes) :=
  if o.compressions.length ≠ 1 then
    .error (.misbehaved "OfferedIncorrectCompressions" .illegalParameter)
  else
    match o.shares with
    | none => .error (.incompatible "KeyShareExtensionRequired" .handshakeFailure)
    | some shares =>
      if ¬(shares.map Share.group).Nodup then
        .error (.misbehaved "OfferedDuplicateKeyShares" .illegalParameter)
      else if ¬o.compressors.Nodup then
        .error (.misbehaved "OfferedDuplicateCertificateCompressions" .illegalParameter)
      else if again ∧ o.earlyData then
        .error (.misbehaved "EarlyDataAttemptedInSecondClientHello" .illegalParameter)
      else
        match shares.find? fun s => s.group == g.code with
        | some s => (screenPreshared o).map fun _ => some s.point
        | none =>
          if again then .error (.misbehaved "RefusedToFollowHelloRetryRequest" .illegalParameter)
          else .ok none

/-- What both sides of an exchange find. -/
def exchange (g : Group) (point : Bytes) : Except Failure Bytes :=
  match g.agree? point with
  | some agreed => .ok agreed
  | none => .error (.misbehaved "InvalidKeyShare" .illegalParameter)

/-- What version 1.2 asks for beyond a suite. -/
def screen12 (o : Offer) (s : Suite) : Except Failure Unit :=
  if !o.pointFormats.contains 0 then
    .error (.incompatible "UncompressedEcPointsRequired" .illegalParameter)
  else if ((o.signatures.getD []).filter (suiteSignatures s).contains).isEmpty then
    .error (.incompatible "NoSignatureSchemesInCommon" .handshakeFailure)
  else .ok ()

end Agreement

end StreamHost.Tls
