import StreamHost.Tls.Extension
import StreamHost.Tls.Group
import StreamHost.Tls.Suite

/-!
The message with which a client opens a handshake. `ClientHello` is the message as it is sent, `Offer` what
a server reads from it. Reading is strict: a part that is malformed, an extension that comes twice, or one
behind the offer of earlier sessions spoils the whole message. `Offer.screen` is what a server asks of every
offer before it looks for something in common.
-/

namespace StreamHost.Tls

structure ClientHello where
  version : Nat
  random : Bytes
  sessionId : Bytes
  suites : List Nat
  compressions : Bytes
  extensions : List (Extension × Bytes)
  deriving DecidableEq, Repr

/-- What a server reads from the opening message. -/
structure Offer where
  version : Nat
  random : Bytes
  sessionId : Bytes
  suites : List Nat
  compressions : Bytes
  serverName : Option NameRequest := none
  groups : List Nat := []
  /-- Forms of points; without the extension there is the full one only. -/
  pointFormats : Bytes := [0]
  signatures : Option (List Nat) := none
  protocols : Option (List Bytes) := none
  clientCertificateTypes : List Nat := []
  serverCertificateTypes : List Nat := []
  masterSecret : Bool := false
  /-- Ways in which certificates may be compressed. -/
  compressors : List Nat := []
  /-- The ticket of an earlier session; an empty one asks for a ticket. -/
  ticket : Option Bytes := none
  preshared : Option Preshared := none
  earlyData : Bool := false
  versions : Option (List Nat) := none
  presharedModes : Option (List Nat) := none
  shares : Option (List Share) := none
  renegotiation : Bool := false
  deriving DecidableEq, Repr

namespace ClientHello

/-- The number that stands for no compression. -/
def noCompression : UInt8 := 0

/-- The message as it is sent, without its header. -/
def encode (h : ClientHello) : Bytes :=
  Bytes.ofNat 2 h.version ++ h.random ++ Wire.sized 1 h.sessionId ++
    Wire.sized 2 (h.suites.flatMap (Bytes.ofNat 2)) ++ Wire.sized 1 h.compressions ++
    Extension.encode h.extensions

/-- The signatures that a client of this library accepts. -/
def supportedSignatures : List Nat :=
  [0x0503, 0x0403, 0x0807, 0x0806, 0x0805, 0x0804, 0x0601, 0x0501, 0x0401]

/-- The suite number that stands for safe renegotiation. -/
def safeRenegotiation : Nat := 0x00ff

/-- What a client of this library draws for its message. -/
def drawn : Bytes := List.replicate 32 0

/-- The message with which a client of this library opens. A key is enclosed for the best group. -/
def opening (serverName : Option String) (versions : List Version) (suites : List Suite)
    (protocols : List Bytes) : ClientHello where
  version := Version.v12.code
  random := drawn
  sessionId := drawn
  suites := suites.map Suite.code ++ [safeRenegotiation]
  compressions := [noCompression]
  extensions :=
    let numbers (ns : List Nat) : Bytes := ns.flatMap (Bytes.ofNat 2)
    [(.versions, Wire.sized 1 (numbers (versions.map Version.code))),
      (.pointFormats, Wire.sized 1 [0]),
      (.groups, Wire.sized 2 (numbers (Group.preferred.map Group.code))),
      (.signatures, Wire.sized 2 (numbers supportedSignatures)),
      (.masterSecret, []),
      (.status, [1, 0, 0, 0, 0]),
      (.shares, Wire.sized 2 ((Group.preferred.take 1).flatMap fun g => Share.encode ⟨g.code, g.share⟩)),
      (.presharedModes, Wire.sized 1 [1]),
      (.ticket, [])] ++
    (serverName.toList.map fun n =>
      (.serverName, Wire.sized 2 (0 :: Wire.sized 2 (Bytes.ofText n)))) ++
    if protocols.isEmpty then []
    else [(.protocols, Wire.sized 2 (protocols.flatMap (Wire.sized 1)))]

end ClientHello

namespace Offer

/-- Whether bytes ask for the status of a certificate. Of kinds other than the first nothing is known. -/
def isStatusRequest : Bytes → Bool
  | [] => false
  | kind :: bs =>
    kind != 1 ||
      (Wire.only? (fun bs => (Wire.list? 2 (Wire.filled? 2) bs).bind fun r => Wire.sized? 2 r.2) bs).isSome

/-- Whether bytes are an encrypted opening message: the mark of an inner one, or an outer one with two
numbers for the cipher, one for its configuration, a key and a text. -/
def isEncryptedHello : Bytes → Bool
  | [1] => true
  | 0 :: bs => ((Wire.take? 5 bs).bind fun r =>
      Wire.only? (fun bs => (Wire.sized? 2 bs).bind fun r => Wire.filled? 2 r.2) r.2).isSome
  | _ => false

/-- An extension joins an offer. -/
def take (o : Offer) (e : Extension) (body : Bytes) : Except Corruption Offer :=
  let whole {α : Type} (read : Bytes → Option (α × Bytes)) (f : α → Offer) : Except Corruption Offer :=
    match Wire.only? read body with
    | some a => .ok (f a)
    | none => .error .content
  let orSpoiled (b : Bool) (o : Offer) : Except Corruption Offer := if b then .ok o else .error .content
  match e with
  | .serverName => do return { o with serverName := some (← NameRequest.read body) }
  | .status => orSpoiled (isStatusRequest body) o
  | .groups => whole (Wire.some? 2 (Wire.number? 2)) fun ns => { o with groups := ns }
  | .pointFormats => whole (Wire.filled? 1) fun bs => { o with pointFormats := bs }
  | .signatures => whole (Wire.some? 2 (Wire.number? 2)) fun ns => { o with signatures := some ns }
  | .protocols => whole (Wire.some? 2 (Wire.filled? 1)) fun ps => { o with protocols := some ps }
  | .clientCertificateTypes =>
    whole (Wire.some? 1 (Wire.number? 1)) fun ns => { o with clientCertificateTypes := ns }
  | .serverCertificateTypes =>
    whole (Wire.some? 1 (Wire.number? 1)) fun ns => { o with serverCertificateTypes := ns }
  | .masterSecret => orSpoiled body.isEmpty { o with masterSecret := true }
  | .compressors => whole (Wire.some? 1 (Wire.number? 2)) fun ns => { o with compressors := ns }
  | .ticket => .ok { o with ticket := some body }
  | .preshared => whole Preshared.read? fun p => { o with preshared := some p }
  | .earlyData => orSpoiled body.isEmpty { o with earlyData := true }
  | .versions => whole (Wire.some? 1 (Wire.number? 2)) fun ns => { o with versions := some ns }
  | .cookie => whole (Wire.filled? 2) fun _ => o
  | .presharedModes =>
    whole (Wire.some? 1 (Wire.number? 1)) fun ns => { o with presharedModes := some ns }
  | .authorities => whole (Wire.list? 2 (Wire.filled? 2)) fun _ => o
  | .shares => whole (Wire.list? 2 Share.read?) fun ss => { o with shares := some ss }
  | .transport => .ok o
  | .renegotiation => whole (Wire.sized? 1) fun _ => { o with renegotiation := true }
  | .encryptedHello => orSpoiled (isEncryptedHello body) o
  | .outerExtensions => whole (Wire.some? 1 (Wire.number? 2)) fun _ => o

/-- Extensions up to the end join an offer; `seen` are the numbers of those before, and `room` bounds how
many there are. -/
def takeAll : (room : Nat) → (seen : List Nat) → Offer → Bytes → Except Corruption Offer
  | _, _, o, [] => .ok o
  | 0, _, _, _ => .error .content
  | room + 1, seen, o, bs =>
    match Extension.read? bs with
    | none => .error .content
    | some ((type, body), rest) =>
      if seen.contains type then .error .twice
      else
        match Extension.ofCode? type with
        | none => takeAll room (type :: seen) o rest
        | some e => do
          let o ← o.take e body
          if e = .preshared ∧ rest ≠ [] then throw .notLast
          takeAll room (type :: seen) o rest

/-- The offer before its extensions, and what follows. -/
def front? (bs : Bytes) : Option (Offer × Bytes) := do
  let (version, bs) ← Wire.number? 2 bs
  let (random, bs) ← Wire.take? 32 bs
  let (sessionId, bs) ← Wire.sized? 1 bs
  let (suites, bs) ← Wire.some? 2 (Wire.number? 2) bs
  let (compressions, bs) ← Wire.filled? 1 bs
  if 32 < sessionId.length then none
  else return ({ version, random, sessionId, suites, compressions }, bs)

/-- The offer in a message. Extensions may be missing altogether. -/
def read (bs : Bytes) : Except Corruption Offer :=
  match front? bs with
  | none => .error .content
  | some (o, []) => .ok o
  | some (o, bs) =>
    match Wire.sized? 2 bs with
    | none => .error .content
    | some (inner, rest) => do
      let o ← takeAll inner.length [] o inner
      if rest ≠ [] then throw .content
      return o

/-- The host name that is requested. -/
def hostname (o : Offer) : Option String :=
  match o.serverName with
  | some (.host n) => some n
  | _ => none

/-- What the log is told of an offer. -/
def remarks (o : Offer) : List Remark := (o.serverName.map NameRequest.remarks).getD []

/-- Whether a list of server names was sent that requests none. -/
def isNameless (o : Offer) : Bool :=
  match o.serverName with
  | some (.invalid _) => true
  | _ => false

/-- What a server asks of every offer. No message may have begun behind it (`aligned`), and an offer that was
asked for again has to request the same name as the one `before`. -/
def screen (o : Offer) (aligned : Bool) (before : Option (Option String)) : Except Failure (List Nat) :=
  if !o.compressions.contains ClientHello.noCompression then
    .error (.incompatible "NullCompressionRequired" .illegalParameter)
  else if !aligned then .error (.misbehaved "KeyEpochWithPendingFragment" .unexpectedMessage)
  else if o.isNameless then
    .error (.misbehaved "ServerNameMustContainOneHostName" .illegalParameter)
  else if before.any (· ≠ o.hostname) then .error (.silent "ServerNameDifferedOnRetry")
  else
    match o.signatures with
    | none => .error (.incompatible "SignatureAlgorithmsExtensionRequired" .handshakeFailure)
    | some ns => .ok ns

end Offer

end StreamHost.Tls
