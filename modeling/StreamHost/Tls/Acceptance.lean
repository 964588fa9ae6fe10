import StreamHost.Tls.Attempt
import StreamHost.Tls.Secured

/-!
How a server secures a stream. It reads until the opening message of the client is whole, lets the
requested name select a configuration, and goes on with that. A client whose message is refused is told
why before the attempt ends.
-/

namespace StreamHost.Tls

open StreamHost.Stream (Medium Turn Poll)

/-- The result of looking for the opening message among the first bytes of a stream. -/
inductive Opening where
  /-- More bytes are needed. -/
  | more (intake : Intake)
  | refused (f : Failure) (remarks : List Remark)
  | whole (offer : Offer) (intake : Intake)

namespace Opening

/-- Content other than a message of the handshake comes first. That it may not is not announced. -/
def ofContent (kind : ContentKind) (content : Bytes) : Failure :=
  let awaited := Failure.unexpectedContent kind.name [ContentKind.handshake.name]
  match kind with
  | .heartbeat => .corrupt .kind
  | .alert => if content.length = 2 then awaited.unannounced else .corrupt .content
  | .changeCipherSpec => if content = [1] then awaited.unannounced else .corrupt .content
  | _ => awaited.unannounced

/-- A message of the handshake comes first. -/
def ofMessage (intake : Intake) (code : UInt8) (body : Bytes) : Opening :=
  let refuse (f : Failure) (remarks : List Remark) : Opening := refused f (remarks ++ f.fault.remarks)
  match Handshake.read false code body with
  | .error how => refuse (.corrupt how) []
  | .ok (.clientHello o) =>
    match o.screen intake.isAligned none with
    | .error f => refuse f o.remarks
    | .ok _ => whole o intake
  | .ok m =>
    refuse (Failure.unexpectedMessage m.name [MessageKind.clientHello.name]).unannounced []

/-- Looks for the opening message. -/
def find (intake : Intake) : Opening :=
  match intake.next false with
  | .error f => refused f f.fault.remarks
  | .ok (intake, none) => more intake
  | .ok (intake, some (.message code body)) => ofMessage intake code body
  | .ok (_, some (.content kind content)) =>
    let f := ofContent kind content
    refused f f.fault.remarks

end Opening

/-- A stream that is being secured. -/
inductive Accepting (σ : Type) where
  | listening (inner : σ) (intake : Intake)
  /-- The opening message is there, and a configuration has to be selected. -/
  | greeted (inner : σ) (offer : Offer) (intake : Intake)
  /-- The client is being told why it is refused. -/
  | refusing (inner : σ) (records : List Bytes) (reason : String)
  | securing (s : Secured σ)

/-- What one poll of an engine brings. -/
structure Report where
  news : News := .nothing
  remarks : List Remark := []

namespace Accepting

variable {σ τ : Type}

/-- The stream inside. -/
def inner : Accepting σ → σ
  | listening i _ | greeted i _ _ | refusing i _ _ => i
  | securing s => s.inner

def map (f : σ → τ) : Accepting σ → Accepting τ
  | listening i intake => listening (f i) intake
  | greeted i offer intake => greeted (f i) offer intake
  | refusing i records reason => refusing (f i) records reason
  | securing s => securing { s with inner := f s.inner }

/-- The record with the alert of a failure, if there is one. -/
def alertRecords (f : Failure) : List Bytes :=
  f.alert.toList.map fun a => Record.plain .alert [Alert.fatal, a.code]

/-- What a poll tells. -/
def report : Poll Report → Report
  | .ready (.ok r) => r
  | .ready (.error e) => { news := .broken e.message }
  | .pending => {}

/-- One poll of a refusal: the records go out as far as they can, then the reason is given. -/
def pollRefusal (m : Medium σ) : (room : Nat) → σ → List Bytes → String → Turn (Accepting σ) Report
  | 0, i, records, reason => ⟨.refusing i records reason, [], .pending⟩
  | room + 1, i, records, reason =>
    let broken (i : σ) (es : List Stream.Event) : Turn (Accepting σ) Report :=
      ⟨.refusing i [] reason, es, .done { news := .broken reason }⟩
    match records with
    | [] => broken i []
    | record :: rest =>
      let t := m.write i record
      match t.poll with
      | .pending => ⟨.refusing t.state records reason, t.events, .pending⟩
      | .ready (.error _) | .ready (.ok 0) => broken t.state t.events
      | .ready (.ok n) =>
        let left := record.drop n
        let u := pollRefusal m room t.state (if left.isEmpty then rest else left :: rest) reason
        { u with events := t.events ++ u.events }

/-- How many writes the refusal with some records takes at most. -/
def refusalRoom (records : List Bytes) : Nat := records.flatten.length + 1

/-- Reads until the opening message is whole. -/
def pollHello (m : Medium σ) : (room : Nat) → σ → Intake → Turn (Accepting σ) Report
  | 0, i, intake => ⟨.listening i intake, [], .pending⟩
  | room + 1, i, intake =>
    let broken (i : σ) (es : List Stream.Event) (e : IoError) : Turn (Accepting σ) Report :=
      ⟨.listening i intake, es, .done { news := .broken e.message }⟩
    if intake.isFull then broken i [] Secured.bufferFull
    else
      let t := m.read i (intake.room Secured.readSize)
      match t.poll with
      | .pending => ⟨.listening t.state intake, t.events, .pending⟩
      | .ready (.error e) => broken t.state t.events e
      | .ready (.ok []) => broken t.state t.events (.bare .unexpectedEof)
      | .ready (.ok bytes) =>
        match Opening.find (intake.feed bytes) with
        | .whole offer intake =>
          ⟨.greeted t.state offer intake, t.events,
            .done { news := .hello offer.hostname, remarks := offer.remarks }⟩
        | .refused f remarks =>
          let records := alertRecords f
          let u := pollRefusal m (refusalRoom records) t.state records f.fault.message
          { u with events := t.events ++ u.events, poll := .done { report u.poll with remarks } }
        | .more intake =>
          let u := pollHello m room t.state intake
          { u with events := t.events ++ u.events }

/-- What the engine left in the log so far is taken out. -/
def withoutRemarks (s : Secured σ) : Accepting σ :=
  .securing { s with engine := { s.engine with remarks := [] } }

/-- One poll of the engine. -/
def poll (m : Medium σ) (a : Accepting σ) : Turn (Accepting σ) Report :=
  match a with
  | .listening i intake => pollHello m Secured.budget i intake
  | .greeted i offer intake =>
    ⟨.greeted i offer intake, [], .done { news := .hello offer.hostname }⟩
  | .refusing i records reason => pollRefusal m (refusalRoom records) i records reason
  | .securing s =>
    let t := s.handshake m
    let remarks := t.state.engine.remarks
    let news := match t.poll with
      | .pending => .nothing
      | .ready (.error e) => .broken e.message
      | .ready (.ok ()) => .established t.state.engine.session
    ⟨withoutRemarks t.state, t.events, .done { news, remarks }⟩

/-- Goes on with a configuration. -/
def engage (c : Configuration) : Accepting σ → Accepting σ
  | .greeted i offer intake =>
    let e := Engine.server c offer intake
    match e.fault with
    | none => .securing { inner := i, engine := e }
    | some f => .refusing i e.output f.message
  | a => a

end Accepting

/-- An attempt with the stream that it secures. -/
structure Acceptance (σ : Type) where
  attempt : Attempt
  stream : Accepting σ

namespace Acceptance

variable {σ τ : Type}

def map (f : σ → τ) (a : Acceptance σ) : Acceptance τ := ⟨a.attempt, a.stream.map f⟩

def start (r : Registry) (now : Nat) (inner : σ) : Acceptance σ :=
  ⟨Attempt.start r now, .listening inner {}⟩

/-- One poll of the stream, heard by the attempt. -/
def advance (m : Medium σ) (r : Registry) (now : Nat) (a : Acceptance σ) :
    Acceptance σ × List Stream.Event :=
  let t := a.stream.poll m
  let report := Accepting.report t.poll
  let attempt := (a.attempt.remark report.remarks).hear r now report.news
  let stream :=
    match attempt.phase with
    | .engaged _ resolution => t.state.engage resolution.chosen
    | _ => t.state
  (⟨attempt, stream⟩, t.events)

/-- One poll of the attempt. Once the opening message has come, the handshake goes on at once. -/
def poll (m : Medium σ) (r : Registry) (now : Nat) (a : Acceptance σ) :
    Acceptance σ × List Stream.Event :=
  let (b, es) := a.advance m r now
  match a.attempt.phase, b.attempt.phase with
  | .awaitingHello, .engaged _ _ =>
    let (c, fs) := b.advance m r now
    (c, es ++ fs)
  | _, _ => (b, es)

/-- So many polls one after the other, at one instant. -/
def pollTimes (m : Medium σ) (r : Registry) (now : Nat) (a : Acceptance σ) (times : Nat) :
    Acceptance σ :=
  Nat.repeat (fun a => (a.poll m r now).1) times a

/-- How an attempt stands after some polls, and again whenever the clock has moved on by one of the given
amounts, as long as it waits. -/
def course (m : Medium σ) (r : Registry) (times now : Nat) (a : Acceptance σ) :
    List Duration → List (Acceptance σ)
  | [] => [a.pollTimes m r now times]
  | d :: ds =>
    let b := a.pollTimes m r now times
    if b.attempt.alarm?.isNone then [b] else b :: course m r times (now + d.nanos) b ds

end Acceptance

end StreamHost.Tls
