import StreamHost.Tls.Agreement
import StreamHost.Tls.Intake
import StreamHost.Tls.Verification

/-!
One side of a TLS session, as a machine over bytes: `Engine.feed` takes the bytes that came in,
`Engine.output` holds the records to send, `Engine.received` the plaintext that came out. A handshake is a
walk through the stages; a message that the stage does not expect ends the session, and so does any
other fault. A session that ended tells the other side why with an alert.
-/

namespace StreamHost.Tls

/-- What a client brings to a handshake. -/
structure ClientTerms where
  serverName : ServerName
  /-- The certificates that are trusted; absent, every certificate is accepted. -/
  trusted : Option (List Certificate) := none
  /-- When certificates are judged. -/
  now : Moment := .present
  protocols : List Bytes := []
  versions : List Version := [.v13, .v12]
  suites : List Suite := Suite.preferred

inductive Role where
  | client (terms : ClientTerms)
  | server (configuration : Configuration)

/-- What a server keeps of an opening message that it asked for again. -/
structure Retry where
  serverName : Option String
  /-- The digest has to stay the same. -/
  digestSize : Nat
  /-- How much early data is still passed over; absent, none was announced. -/
  skip : Option Nat
  deriving DecidableEq, Repr

/-- What a side waits for. -/
inductive Stage where
  /-- The opening message, which may have been asked for again. -/
  | clientHello (retry : Option Retry)
  | serverHello
  | extensions
  | certificate
  | verify
  | keyExchange
  | helloDone
  | change
  | finished
  /-- The handshake is over. -/
  | traffic
  deriving DecidableEq, Repr

structure Engine where
  role : Role
  stage : Stage
  intake : Intake := {}
  /-- Records to send. -/
  output : List Bytes := []
  /-- Plaintext that came in, as it was framed. -/
  received : List Bytes := []
  /-- The key that protects what goes out. -/
  sealing : Option Key := none
  /-- What the client drew. -/
  clientDrawn : Bytes := []
  /-- What the server drew. -/
  serverDrawn : Bytes := []
  /-- The group of the exchange. -/
  group : Option Group := none
  secret : Option Secret := none
  /-- How many changes of cipher were passed over. -/
  changes : Nat := 0
  /-- How many warnings were passed over. -/
  warnings : Nat := 0
  /-- Whether the other side said that it sends no more. -/
  closeSeen : Bool := false
  /-- What was agreed on. -/
  session : Session := {}
  fault : Option Fault := none
  /-- What the log is to be told. -/
  remarks : List Remark := []

namespace Engine

def isHandshaking (e : Engine) : Bool := e.stage != .traffic

/-- Whether the sides agreed on version 1.2. -/
def isVersion12 (e : Engine) : Bool := e.session.version == some .v12

/-- Whether the sides agreed on version 1.3. -/
def isVersion13 (e : Engine) : Bool := e.session.version == some .v13

def isClient (e : Engine) : Bool :=
  match e.role with
  | .client _ => true
  | .server _ => false

/-- Whether this is a client that can speak version 1.3. -/
def offers13 (e : Engine) : Bool :=
  match e.role with
  | .client t => t.versions.contains .v13
  | .server _ => false

/-- Whether there is reason to read. While a handshake lasts, what is to be sent goes first. -/
def wantsInput (e : Engine) : Bool :=
  e.received.isEmpty && !e.closeSeen && (!e.isHandshaking || e.output.isEmpty)

/-! ## Sending -/

/-- Sends content that fits into one record, protected if it is time for that. -/
def sendPiece (e : Engine) (kind : ContentKind) (piece : Bytes) : Engine :=
  match e.sealing with
  | none => { e with output := e.output ++ [Record.plain kind piece] }
  | some k =>
    { e with
      output := e.output ++ [Record.plain (k.shownKind kind) (k.protect kind piece)]
      sealing := some k.next }

/-- Sends content. -/
def send (e : Engine) (kind : ContentKind) (content : Bytes) : Engine :=
  (Record.pieces content).foldl (fun e piece => e.sendPiece kind piece) e

/-- Sends messages of the handshake together. -/
def sendMessages (e : Engine) (ms : List Bytes) : Engine := e.send .handshake ms.flatten

/-- Sends the sign that what follows is protected. -/
def sendChange (e : Engine) : Engine := e.send .changeCipherSpec [1]

/-- Gives up. -/
def fail (e : Engine) (f : Failure) : Engine :=
  let e := { e with fault := some f.fault, remarks := e.remarks ++ f.fault.remarks }
  match f.alert with
  | none => e
  | some a => e.send .alert [Alert.fatal, a.code]

/-- Goes on with a result, or gives up. -/
def orFail {α : Type} (e : Engine) (r : Except Failure α) (f : α → Engine) : Engine :=
  match r with
  | .ok a => f a
  | .error failure => e.fail failure

/-- Tells the other side that nothing more is sent. -/
def sendClose (e : Engine) : Engine := e.send .alert [Alert.warning, Alert.closeNotify.code]

/-! ## Secrets -/

/-- The secret follows from what the sides agreed on. -/
def derive (e : Engine) (agreed : Bytes) : Engine :=
  { e with secret := some (.derive agreed e.clientDrawn e.serverDrawn) }

/-- The key for one direction. -/
def key? (e : Engine) (p : Purpose) : Option Key := do
  return .ofSecret (← e.secret) p (← e.session.suite)

/-- The proof of one side. -/
def proof (e : Engine) (p : Purpose) : Bytes :=
  ((do return (← e.secret).proof p (← e.session.suite)) : Option Bytes).getD []

/-- What goes out is protected from now on. -/
def startSealing (e : Engine) : Engine :=
  { e with sealing := e.key? (if e.isClient then .clientRecords else .serverRecords) }

/-- What comes in is protected from now on. Of what the key does not open, `tolerance` is passed over. -/
def startOpening (e : Engine) (tolerance : Option Nat := none) : Engine :=
  { e with intake := { e.intake with
      key := e.key? (if e.isClient then .serverRecords else .clientRecords), tolerance } }

/-- The message with which this side ends its part of the handshake. -/
def finishedMessage (e : Engine) : Bytes :=
  MessageKind.finished.frame (e.proof (if e.isClient then .clientProof else .serverProof))

/-! ## The server -/

/-- How much early data is passed over. -/
def earlyDataLimit : Nat := 16384

/-- The extensions with which a server names what goes with neither version. -/
def extras (o : Offer) (x : Agreement.Extras) : List (Extension × Bytes) :=
  let ofType (e : Extension) (t : Option Nat) : List (Extension × Bytes) :=
    t.toList.map fun n => (e, Bytes.ofNat 1 n)
  (if o.hostname.isSome then [(.serverName, [])] else []) ++ Extension.ofProtocol x.protocol ++
    ofType .clientCertificateTypes x.clientType ++ ofType .serverCertificateTypes x.serverType

/-- A server of version 1.3 asks for a key of another group. -/
def askAgain (e : Engine) (o : Offer) (a : Agreement) : Engine :=
  let e := e.sendMessages [ServerHello.message ServerHello.retryRandom o.sessionId a.suite
    [(.shares, Bytes.ofNat 2 a.group.code), (.versions, Bytes.ofNat 2 a.version.code)]]
  { e.sendChange with stage := .clientHello (some {
      serverName := o.hostname, digestSize := a.suite.digestSize
      skip := if o.earlyData then some earlyDataLimit else none }) }

/-- A server of version 1.3 sends all that it has to, from its answer to its proof. -/
def answer13 (e : Engine) (c : Configuration) (again : Bool) (o : Offer) (a : Agreement)
    (agreed : Bytes) : Engine :=
  let e := { e with session := { e.session with suite := some a.suite } }.derive agreed
  let e := e.sendMessages [ServerHello.message e.serverDrawn o.sessionId a.suite
    [(.shares, Share.encode ⟨a.group.code, a.group.share⟩),
      (.versions, Bytes.ofNat 2 a.version.code)]]
  let e := (if again then e else e.sendChange).startSealing
  e.orFail (do
      let x ← Agreement.chooseExtras c o
      return (x, ← Agreement.sign13 c (o.signatures.getD []))) fun (x, scheme) =>
    let e := e.sendMessages
      [MessageKind.encryptedExtensions.frame (Extension.encode (extras o x)),
        Handshake.certificateMessage .v13 c.chain,
        MessageKind.certificateVerify.frame (Handshake.signature scheme c.publicKey.signatureSize),
        e.finishedMessage]
    let e := e.startOpening (if o.earlyData then some earlyDataLimit else none)
    { e with stage := .finished, session := { e.session with alpn := x.protocol } }

/-- The name of a session under which a server of version 1.2 keeps it. A client with a ticket gets none. -/
def sessionName (o : Offer) : Bytes :=
  match o.ticket with
  | none | some [] => ServerHello.drawn
  | some _ => []

/-- A server of version 1.2 answers and waits for the key of the client. -/
def answer12 (e : Engine) (c : Configuration) (o : Offer) (a : Agreement) : Engine :=
  e.orFail (do
      Agreement.screen12 o a.suite
      let x ← Agreement.chooseExtras c o
      return (x, ← Agreement.sign12 c a.suite (o.signatures.getD []))) fun (x, scheme) =>
    let renegotiation := o.renegotiation || o.suites.contains ClientHello.safeRenegotiation
    let e := e.sendMessages
      [ServerHello.message e.serverDrawn (sessionName o) a.suite
          (extras o x ++ (if renegotiation then [(.renegotiation, Wire.sized 1 [])] else []) ++
            if o.masterSecret then [(.masterSecret, [])] else []),
        Handshake.certificateMessage .v12 c.chain,
        Handshake.serverKeyMessage a.group scheme c.publicKey.signatureSize,
        MessageKind.serverHelloDone.frame []]
    { e with
      stage := .keyExchange, group := some a.group
      session := { e.session with suite := some a.suite, alpn := x.protocol } }

/-- A server answers the opening message. After a retry the digest stays, and so does the version. -/
def answer (e : Engine) (c : Configuration) (retry : Option Retry) (o : Offer) : Engine :=
  e.orFail (Agreement.choose c o) fun a =>
    let e := { e with
      session := { e.session with version := some a.version }
      clientDrawn := o.random, serverDrawn := ServerHello.drawn }
    if retry.any fun r => r.digestSize != a.suite.digestSize || a.version == .v12 then
      e.fail (.silent "HandshakeHashVariedAfterRetry")
    else
      match a.version with
      | .v12 => e.answer12 c o a
      | .v13 =>
        e.orFail (Agreement.share13 a.group retry.isSome o) fun point? =>
          match point? with
          | none => e.askAgain o a
          | some point => e.orFail (Agreement.exchange a.group point) (e.answer13 c retry.isSome o a)

/-- A server takes an opening message that it asked for again. -/
def takeRetried (e : Engine) (c : Configuration) (retry : Retry) (o : Offer) : Engine :=
  let e := { e with remarks := e.remarks ++ o.remarks }
  e.orFail (o.screen e.intake.isAligned (some retry.serverName)) fun _ => e.answer c (some retry) o

/-- A server of version 1.2 takes the key of the client. -/
def takeClientKey (e : Engine) (body : Bytes) : Engine :=
  match Wire.filled? 1 body, e.group with
  | some (point, []), some g =>
    e.orFail (Agreement.exchange g point) fun agreed => { e.derive agreed with stage := .change }
  | some _, _ => e.fail (.corrupt .content)
  | none, _ => e.fail (Failure.corrupt .content).unannounced

/-! ## The client -/

/-- A client takes the answer to its opening message. -/
def takeServerHello (e : Engine) (t : ClientTerms) (h : ServerHello) : Engine :=
  match (Suite.ofCode? h.suite).filter fun s =>
      t.versions.contains h.version && t.suites.contains s && s.version == h.version with
  | none => e.fail (.misbehaved "SelectedUnofferedCipherSuite" .illegalParameter)
  | some s =>
    let e := { e with
      serverDrawn := h.random
      session := { e.session with version := some h.version, suite := some s } }
    match h.version with
    | .v12 =>
      { e with
        stage := .certificate
        session := { e.session with alpn := Extension.protocol? h.extensions } }
    | .v13 =>
      match h.share?.bind fun s => (Group.ofCode? s.group).bind fun g => g.agree? s.point with
      | none => e.fail (.misbehaved "InvalidKeyShare" .illegalParameter)
      | some agreed =>
        { (e.sendChange.derive agreed).startSealing.startOpening with stage := .extensions }

/-- A client of version 1.2 takes the key of the server. -/
def takeServerKey (e : Engine) (body : Bytes) : Engine :=
  match (Handshake.serverKey? body).bind fun s => (Group.ofCode? s.group).bind fun g =>
      (g.agree? s.point).map fun agreed => (g, agreed) with
  | none => e.fail (.misbehaved "InvalidKeyShare" .illegalParameter)
  | some (g, agreed) => { e.derive agreed with stage := .helloDone, group := some g }

/-- A client judges the certificates it was shown. -/
def judge (e : Engine) (t : ClientTerms) : Except Failure Unit :=
  match t.trusted with
  | none => .ok ()
  | some trusted =>
    (Verification.check t.now trusted t.serverName e.session.peerCertificates).mapError
      Verification.Rejection.failure

/-! ## Both sides -/

/-- The end of a handshake of version 1.2 on the side that speaks. -/
def finish12 (e : Engine) : Engine :=
  let e := e.sendChange.startSealing
  e.sendMessages [e.finishedMessage]

/-- A server has seen the client's last message. -/
def serverFinished (e : Engine) : Engine :=
  if e.isVersion13 then
    let ticket := MessageKind.ticket.frame Handshake.filler
    (e.sendMessages [ticket]).sendMessages [ticket]
  else e.finish12

/-- A client has seen the server's last message. -/
def clientFinished (e : Engine) : Engine :=
  if e.isVersion13 then e.sendMessages [e.finishedMessage] else e

/-- Takes the proof of the other side. -/
def takeProof (e : Engine) (proof : Bytes) : Engine :=
  if proof = e.proof (if e.isClient then .serverProof else .clientProof) then
    { (if e.isClient then e.clientFinished else e.serverFinished) with stage := .traffic }
  else e.fail ⟨.unreadable, some .decryptError⟩

/-- The kinds of content that may come now. -/
def awaitedContent (e : Engine) : List ContentKind :=
  match e.stage with
  | .change => [.changeCipherSpec]
  | .traffic => if e.isVersion12 then [.applicationData] else [.applicationData, .handshake]
  | _ => [.handshake]

/-- The messages of the handshake that may come now. -/
def awaitedMessages (e : Engine) : List MessageKind :=
  match e.stage with
  | .clientHello _ => [.clientHello]
  | .serverHello => if e.offers13 then [.serverHello, .helloRetryRequest] else [.serverHello]
  | .extensions => [.encryptedExtensions]
  | .certificate => if e.isVersion12 then [.certificate] else [.certificate, .certificateRequest]
  | .verify => [.certificateVerify]
  | .keyExchange => if e.isClient then [.serverKeyExchange] else [.clientKeyExchange]
  | .helloDone => [.serverHelloDone, .certificateRequest]
  | .change => []
  | .finished => [.finished]
  | .traffic =>
    if e.isVersion12 then []
    else if e.isClient then [.ticket, .keyUpdate]
    else [.keyUpdate]

/-- The fault of content that may not come now. -/
def surprisedByContent (e : Engine) (kind : ContentKind) : Failure :=
  .unexpectedContent kind.name (e.awaitedContent.map ContentKind.name)

/-- The fault of a message that may not come now. -/
def surprisedBy (e : Engine) (m : Handshake) : Failure :=
  match e.awaitedMessages with
  | [] => e.surprisedByContent .handshake
  | kinds => .unexpectedMessage m.name (kinds.map MessageKind.name)

/-- Takes a message of the handshake. -/
def takeMessage (e : Engine) (m : Handshake) : Engine :=
  match e.role, e.stage, m with
  | .server c, .clientHello (some retry), .clientHello o => e.takeRetried c retry o
  | .server _, .keyExchange, .clientKeyExchange body => e.takeClientKey body
  | _, .finished, .finished proof => e.takeProof proof
  | .client t, .serverHello, .serverHello h =>
    if h.isRetry then e.fail (e.surprisedBy m) else e.takeServerHello t h
  | .client t, .extensions, .encryptedExtensions p =>
    if p.all t.protocols.contains then
      { e with stage := .certificate, session := { e.session with alpn := p } }
    else e.fail (.misbehaved "SelectedUnofferedApplicationProtocol" .illegalParameter)
  | .client _, .certificate, .certificate chain =>
    { e with
      stage := if e.isVersion13 then .verify else .keyExchange
      session := { e.session with peerCertificates := chain } }
  | .client t, .verify, .other code =>
    if code = MessageKind.certificateVerify.code then
      e.orFail (e.judge t) fun _ => { e with stage := .finished }
    else e.fail (e.surprisedBy m)
  | .client _, .keyExchange, .serverKeyExchange body => e.takeServerKey body
  | .client t, .helloDone, .other code =>
    if code = MessageKind.serverHelloDone.code then
      e.orFail (e.judge t) fun _ =>
        let point := (e.group.map Group.share).getD []
        { (e.sendMessages [Handshake.clientKeyMessage point]).finish12 with stage := .change }
    else e.fail (e.surprisedBy m)
  | .client _, .traffic, .other code =>
    if code = MessageKind.ticket.code then e else e.fail (e.surprisedBy m)
  | _, _, _ => e.fail (e.surprisedBy m)

/-- How many warnings are passed over. -/
def warningsPassedOver : Nat := 4

/-- Takes a warning. Version 1.3 has none, except that the user gave up. -/
def takeWarning (e : Engine) (a : Alert) : Engine :=
  if warningsPassedOver ≤ e.warnings then e.fail (.silent "TooManyWarningAlertsReceived")
  else if a = .userCanceled then { e with warnings := e.warnings + 1 }
  else if e.isVersion13 then e.fail ⟨.received a, some .decodeError⟩
  else { e with warnings := e.warnings + 1, remarks := e.remarks ++ [.warned a] }

/-- Takes an alert. -/
def takeAlert (e : Engine) : Bytes → Engine
  | [level, code] =>
    let a : Alert := ⟨code⟩
    if level ≠ Alert.warning ∧ level ≠ Alert.fatal then
      e.fail ⟨.received a, some .illegalParameter⟩
    else if !e.isHandshaking && a == .closeNotify then { e with closeSeen := true }
    else if level = Alert.warning then e.takeWarning a
    else e.fail ⟨.received a, none⟩
  | _ => e.fail (.corrupt .content)

/-- How many changes of cipher a handshake of version 1.3 passes over. -/
def changesPassedOver : Nat := 2

/-- Takes the sign that what follows is protected. In version 1.3 it means nothing. -/
def takeChange (e : Engine) (content : Bytes) : Engine :=
  let illegal := "IllegalMiddleboxChangeCipherSpec"
  if e.isHandshaking && e.isVersion13 then
    if content ≠ [1] then e.fail (.misbehaved illegal .unexpectedMessage)
    else if changesPassedOver ≤ e.changes then e.fail (.silent illegal)
    else { e with changes := e.changes + 1 }
  else if content ≠ [1] then e.fail (.corrupt .content)
  else if e.stage = .change then { e.startOpening with stage := .finished }
  else e.fail (e.surprisedByContent .changeCipherSpec)

/-- Takes data. What a client announced to send early is passed over. -/
def takeData (e : Engine) (content : Bytes) : Engine :=
  match e.stage with
  | .traffic => if content = [] then e else { e with received := e.received ++ [content] }
  | .clientHello (some r) =>
    if r.skip.any (content.length ≤ ·) then
      { e with stage := .clientHello (some { r with skip := r.skip.map (· - content.length) }) }
    else e.fail (e.surprisedByContent .applicationData)
  | _ => e.fail (e.surprisedByContent .applicationData)

/-- Takes what came in. -/
def take (e : Engine) : Incoming → Engine
  | .message code body =>
    match Handshake.read (e.intake.key.any Key.isModern) code body with
    | .error how => e.fail (.corrupt how)
    | .ok m => e.takeMessage m
  | .content .alert content => e.takeAlert content
  | .content .changeCipherSpec content => e.takeChange content
  | .content .applicationData content => e.takeData content
  | .content .handshake _ => e
  | .content .heartbeat _ => e.fail (.corrupt .kind)

/-- Takes what is there to be taken; `room` bounds how much. After a fault or the end nothing is. -/
def takeAll : (room : Nat) → Engine → Engine
  | 0, e => e
  | room + 1, e =>
    if e.fault.isSome || e.closeSeen then e
    else
      match e.intake.next e.isVersion13 with
      | .error f => e.fail f
      | .ok (intake, none) => { e with intake }
      | .ok (intake, some incoming) => takeAll room ({ e with intake }.take incoming)

/-- Takes bytes that came in. -/
def feed (e : Engine) (bytes : Bytes) : Engine :=
  let intake := e.intake.feed bytes
  takeAll (intake.input.length + intake.fragment.length + 1) { e with intake }

/-- A client at the start: its opening message is ready to be sent. -/
def client (t : ClientTerms) : Engine :=
  let hello := ClientHello.opening t.serverName.indicated? t.versions t.suites t.protocols
  ({ role := .client t, stage := .serverHello, clientDrawn := hello.random } : Engine).sendMessages
    [MessageKind.clientHello.frame hello.encode]

/-- A server that has seen an opening message; what came in after it is still to be taken. -/
def server (c : Configuration) (o : Offer) (intake : Intake) : Engine :=
  answer { role := .server c, stage := .clientHello none, intake } c none o

/-- Takes plaintext out, at most as much as there is room for and no more than one record held. -/
def takePlain (e : Engine) (room : Nat) : Engine × Bytes :=
  match e.received with
  | [] => (e, [])
  | chunk :: rest =>
    let left := chunk.drop room
    ({ e with received := if left.isEmpty then rest else left :: rest }, chunk.take room)

theorem takePlain_le (e : Engine) (room : Nat) : (e.takePlain room).2.length ≤ room := by
  unfold takePlain
  split
  · exact Nat.zero_le _
  · exact List.length_take_le _ _

end Engine

end StreamHost.Tls
