import StreamHost.Stream.Poll
import StreamHost.Tls.Engine

/-!
A TLS session over a byte stream: a medium inside which every byte is protected. `Secured.handshake` is
one poll of the handshake; once it is done, `Secured.medium` reads and writes plaintext. Records are
written one after the other, and nothing is read while a handshake has something to write.
-/

namespace StreamHost.Tls

open StreamHost.Stream (Medium Turn Poll)

/-- A stream with a session over it. -/
structure Secured (σ : Type) where
  inner : σ
  engine : Engine
  /-- Whether a read has found the end. -/
  readEnded : Bool := false
  /-- Whether the end was announced. -/
  closeSent : Bool := false

namespace Secured

variable {σ : Type}

/-- How many operations of the inner stream one poll makes at most. -/
def budget : Nat := 1048576

/-- How much one read of the inner stream takes. -/
def readSize : Nat := 4096

/-- One write of the first record to send. -/
def writeRecord (m : Medium σ) (s : Secured σ) : Turn (Secured σ) Nat :=
  match s.engine.output with
  | [] => ⟨s, [], .done 0⟩
  | record :: rest =>
    let t := m.write s.inner record
    let output (n : Nat) := if record.length ≤ n then rest else record.drop n :: rest
    match t.poll with
    | .ready (.ok n) =>
      ⟨{ s with inner := t.state, engine := { s.engine with output := output n } }, t.events, t.poll⟩
    | _ => ⟨{ s with inner := t.state }, t.events, t.poll⟩

/-- Writes until nothing is left to send. The answer is how much was written. -/
def writeAll (m : Medium σ) : (room : Nat) → (wrote : Nat) → Secured σ → Turn (Secured σ) Nat
  | 0, _, s => ⟨s, [], .pending⟩
  | room + 1, wrote, s =>
    if s.engine.output.isEmpty then ⟨s, [], .done wrote⟩
    else
      let t := writeRecord m s
      match t.poll with
      | .pending => t
      | .ready (.error _) => t
      | .ready (.ok 0) => { t with poll := .fail (.bare .writeZero) }
      | .ready (.ok n) =>
        let u := writeAll m room (wrote + n) t.state
        { u with events := t.events ++ u.events }

/-- The failure of a read when a message would take more than can be kept. -/
def bufferFull : IoError := .custom .invalidData "message buffer full"

/-- One read of the inner stream, and what the session makes of it. A session that gives up still writes
why, as far as the inner stream lets it. -/
def readInput (m : Medium σ) (s : Secured σ) : Turn (Secured σ) Nat :=
  if s.engine.intake.isFull then ⟨s, [], .fail bufferFull⟩
  else
    let t := m.read s.inner (s.engine.intake.room readSize)
    match t.poll with
    | .pending => ⟨{ s with inner := t.state }, t.events, .pending⟩
    | .ready (.error e) => ⟨{ s with inner := t.state }, t.events, .fail e⟩
    | .ready (.ok bytes) =>
      let s := { s with inner := t.state, engine := s.engine.feed bytes }
      match s.engine.fault with
      | none => ⟨s, t.events, .done bytes.length⟩
      | some f =>
        let u := writeAll m budget 0 s
        ⟨u.state, t.events ++ u.events, .fail (.custom .invalidData f.message)⟩

/-- Reads while the session wants input. The answer tells whether the end was found. -/
def readWanted (m : Medium σ) : (room : Nat) → Secured σ → Turn (Secured σ) Bool
  | 0, s => ⟨s, [], .pending⟩
  | room + 1, s =>
    if s.engine.wantsInput then
      let t := readInput m s
      match t.poll with
      | .pending => ⟨t.state, t.events, .pending⟩
      | .ready (.error e) => ⟨t.state, t.events, .fail e⟩
      | .ready (.ok 0) => ⟨t.state, t.events, .done true⟩
      | .ready (.ok _) =>
        let u := readWanted m room t.state
        { u with events := t.events ++ u.events }
    else ⟨s, [], .done false⟩

/-- Hands everything on that is to be sent, inner stream included. -/
def flush (m : Medium σ) (s : Secured σ) : Turn (Secured σ) Unit :=
  let t := writeAll m budget 0 s
  match t.poll with
  | .pending => ⟨t.state, t.events, .pending⟩
  | .ready (.error e) => ⟨t.state, t.events, .fail e⟩
  | .ready (.ok _) =>
    let u := m.flush t.state.inner
    ⟨{ t.state with inner := u.state }, t.events ++ u.events, u.poll⟩

/-- What is to be sent goes out, as far as the inner stream lets it. The answer tells whether all went. -/
def sendWanted (m : Medium σ) (s : Secured σ) : Turn (Secured σ) Bool :=
  if s.engine.output.isEmpty then ⟨s, [], .done true⟩
  else
    let t := flush m s
    match t.poll with
    | .pending => ⟨t.state, t.events, .done false⟩
    | .ready (.error e) => ⟨t.state, t.events, .fail e⟩
    | .ready (.ok _) => ⟨t.state, t.events, .done true⟩

/-- The failure of a handshake during which the inner stream ends. -/
def handshakeEof : IoError := .custom .unexpectedEof "tls handshake eof"

/-- Goes on with the handshake while it moves; `room` bounds the rounds. -/
def handshakeWithin (m : Medium σ) : (room : Nat) → Secured σ → Turn (Secured σ) Unit
  | 0, s => ⟨s, [], .pending⟩
  | room + 1, s =>
    if s.engine.isHandshaking then
      let t := sendWanted m s
      match t.poll with
      | .pending => ⟨t.state, t.events, .pending⟩
      | .ready (.error e) => ⟨t.state, t.events, .fail e⟩
      | .ready (.ok sent) =>
        let u := readWanted m budget t.state
        let events := t.events ++ u.events
        let goOn (_ : Unit) : Turn (Secured σ) Unit :=
          let v := handshakeWithin m room u.state
          { v with events := events ++ v.events }
        match u.poll with
        | .ready (.error e) => ⟨u.state, events, .fail e⟩
        | .ready (.ok true) =>
          if u.state.engine.isHandshaking then ⟨u.state, events, .fail handshakeEof⟩ else goOn ()
        | .ready (.ok false) => if sent then goOn () else ⟨u.state, events, .pending⟩
        | .pending =>
          if u.state.engine.isHandshaking then ⟨u.state, events, .pending⟩ else goOn ()
    else flush m s

/-- How many rounds one poll of a handshake makes at most: no handshake needs more. -/
def rounds : Nat := 16

/-- One poll of the handshake. -/
def handshake (m : Medium σ) (s : Secured σ) : Turn (Secured σ) Unit := handshakeWithin m rounds s

/-- The page to which `truncated` points its reader. -/
def truncationPage : String :=
  "/".intercalate ["https:", "", "docs.rs", "rustls", "latest", "rustls", "manual", "_03_howto",
    "index.html#unexpected-eof"]

/-- The failure of a read after the inner stream ended without a word. -/
def truncated : IoError :=
  .custom .unexpectedEof
    ("peer closed connection without sending TLS close_notify: " ++ truncationPage)

/-- Reads plaintext. -/
def read (m : Medium σ) (s : Secured σ) (room : Nat) : Turn (Secured σ) Bytes :=
  if s.readEnded then ⟨s, [], .done []⟩
  else
    let t := readWanted m budget s
    match t.poll with
    | .ready (.error e) => ⟨t.state, t.events, .fail e⟩
    | poll =>
      if t.state.engine.received.isEmpty then
        if t.state.engine.closeSeen then ⟨{ t.state with readEnded := true }, t.events, .done []⟩
        else
          match poll with
          | .ready (.ok true) => ⟨t.state, t.events, .fail truncated⟩
          | _ => ⟨t.state, t.events, .pending⟩
      else
        let (engine, bytes) := t.state.engine.takePlain room
        ⟨{ t.state with engine }, t.events, .done bytes⟩

/-- Protects plaintext and sends it. What the inner stream does not take yet stays to be sent. -/
def write (m : Medium σ) (s : Secured σ) (bytes : Bytes) : Turn (Secured σ) Nat :=
  if bytes.isEmpty then ⟨s, [], .done 0⟩
  else
    let t := writeAll m budget 0 { s with engine := s.engine.send .applicationData bytes }
    match t.poll with
    | .ready (.error e) =>
      if e = .bare .writeZero then ⟨t.state, t.events, .done bytes.length⟩
      else ⟨t.state, t.events, .fail e⟩
    | _ => ⟨t.state, t.events, .done bytes.length⟩

/-- Announces the end once, and shuts the inner stream down when everything is sent. -/
def shutdown (m : Medium σ) (s : Secured σ) : Turn (Secured σ) Unit :=
  let s := if s.closeSent then s else { s with engine := s.engine.sendClose, closeSent := true }
  let t := writeAll m budget 0 s
  match t.poll with
  | .pending => ⟨t.state, t.events, .pending⟩
  | .ready (.error e) => ⟨t.state, t.events, .fail e⟩
  | .ready (.ok _) =>
    let u := m.shutdown t.state.inner
    ⟨{ t.state with inner := u.state }, t.events ++ u.events, u.poll⟩

/-- Secured streams as a medium. -/
def medium (m : Medium σ) : Medium (Secured σ) := ⟨read m, write m, flush m, shutdown m⟩

end Secured

end StreamHost.Tls
