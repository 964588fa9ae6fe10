import StreamHost.Alarm
import StreamHost.Connection.Operation

/-!
Handlers: what a server does with a connection. A handler is any machine that always wants one thing of its
connection, or a pause, and goes on with what it gets; it may give its connection up before it is over. That
is `Handler.other`, which `Handler.ofMachine` makes of a machine. The others are those that come with the
program, `discard_handler` among them. They only read, write, shut down and pause, so `Course.run` lets them
work on any stream until they have to wait. Whoever of them writes repeats until all is written, and takes a
write of nothing for a failure.
-/

namespace StreamHost

open StreamHost.Stream (Medium Turn Poll)

/-- What a handler can want next. -/
inductive Handler.Want where
  | use (u : Connection.Operation)
  /-- Waits for an instant. -/
  | pause (alarm : Alarm)
  /-- Waits for what never comes. -/
  | hold
  /-- Gives its connection up and goes on without it. -/
  | drop
  /-- Is over. -/
  | finish (result : Except IoError Unit)

/-- What a handler wants, by all that it has been given since it started, the last thing first. -/
abbrev Handler.Strategy := List Connection.Operation.Answer → Handler.Want

inductive Handler where
  /-- The one of `discard_handler`: reads everything and keeps nothing. -/
  | discard
  /-- Writes everything back, and ends its half when the other half ends. -/
  | echo
  /-- Waits forever. -/
  | hold
  /-- Reads once and fails. -/
  | fail
  /-- Does nothing. -/
  | leave
  /-- Reads four bytes, pauses, answers, and ends its half. -/
  | slow
  /-- Says something about the connection, and ends its half. -/
  | say (reply : Option Tls.Session → Option Connection.Completion → Bytes)
  /-- Follows a strategy of its own, which knows what its connection came with. -/
  | other (strategy : Option Tls.Session → Option Connection.Completion → Handler.Strategy)

namespace Handler

/-- Any machine is a handler: it has a state, wants one thing in each, and goes on with what it gets. -/
def ofMachine {σ : Type} (start : Option Tls.Session → Option Connection.Completion → σ)
    (wants : σ → Want) (onward : σ → Connection.Operation.Answer → σ) : Handler :=
  other fun session completion given =>
    wants (given.foldr (fun answer state => onward state answer) (start session completion))

/-- What can be said about a connection: the name it asked for, what the handshake agreed on, and which
entry serves it. -/
def describe (session : Option Tls.Session) (completion : Option Connection.Completion) : Bytes :=
  .ofText (match session with
    | none => "plain"
    | some s => "|".intercalate [
        s.hostname.getD "-", (s.alpn.map Bytes.hex).getD "", (s.version.map Tls.Version.name).getD "-",
        (s.suite.map Tls.Suite.name).getD "-", toString s.peerCertificates.length,
        (completion.map fun c => c.matched.json).getD "-"])

/-- Says hello. -/
def greet : Handler := .say fun _ _ => .ofText "hello"

/-- Says what can be said about the connection. -/
def report : Handler := .say describe

/-- Handlers by name; any other name means the one that discards. -/
def ofName : String → Handler
  | "echo" => echo
  | "hold" => hold
  | "fail" => fail
  | "greet" => greet
  | "leave" => leave
  | "slow" => slow
  | "report" => report
  | _ => discard

/-- What is done with what was read. -/
inductive Use where
  | discard
  | echo
  | fail
  /-- Reads until nothing is missing. -/
  | gather (missing : Nat)
  deriving DecidableEq, Repr

/-- Where a handler stands. -/
inductive Course where
  | reading (room : Nat) (use : Use)
  /-- Writes the rest, and then reads again or ends its half. -/
  | writing (rest : Bytes) (readAgain : Bool)
  | ending
  | pausing (alarm : Alarm)
  | holding
  | ended (result : Except IoError Unit)
  /-- Follows a strategy that has been given something. -/
  | following (strategy : Strategy) (given : List Connection.Operation.Answer)

/-- How much an echo reads at once. -/
def echoRoom : Nat := 8192

/-- How much is read at once to be discarded. -/
def discardRoom : Nat := 4096

/-- How many bytes the slow handler asks for. -/
def slowRoom : Nat := 4

/-- How long the slow handler pauses. -/
def pause : Duration := Duration.ofSecs 1

def slowReply : Bytes := Bytes.ofText "done"

def earlyEof : IoError := .custom .unexpectedEof "early eof"

def writeZero : IoError := .bare .writeZero

namespace Course

/-- Writes, unless there is nothing to write. -/
def write (bytes : Bytes) (readAgain : Bool) : Course :=
  if bytes ≠ [] then .writing bytes readAgain
  else if readAgain then .reading echoRoom .echo
  else .ending

/-- Goes on after a read. -/
def afterRead (now room : Nat) (use : Use) : Except IoError Bytes → Course
  | .error e => .ended (.error e)
  | .ok bytes =>
    match use with
    | .discard => if bytes = [] then .ended (.ok ()) else .reading room .discard
    | .echo => if bytes = [] then .ending else .write bytes true
    | .fail => .ended (.error (.bare .invalidData))
    | .gather missing =>
      if bytes = [] then .ended (.error earlyEof)
      else if bytes.length < missing then
        .reading (missing - bytes.length) (.gather (missing - bytes.length))
      else .pausing (Alarm.after now pause)

/-- Goes on after a write of some of `rest`. -/
def afterWrite (rest : Bytes) (readAgain : Bool) : Except IoError Nat → Course
  | .error e => .ended (.error e)
  | .ok 0 => .ended (.error writeZero)
  | .ok n => .write (rest.drop n) readAgain

/-- Whether it is over, and how it went. -/
def result? : Course → Option (Except IoError Unit)
  | .ended r => some r
  | .following strategy given =>
    match strategy given with
    | .finish r => some r
    | _ => none
  | _ => none

def alarm? : Course → Option Alarm
  | .pausing a => some a
  | .following strategy given =>
    match strategy given with
    | .pause a => some a
    | _ => none
  | _ => none

variable {σ : Type}

/-- One step on a stream. There is none if the handler has to wait or is over. Whoever follows a strategy needs
more than a stream. -/
def step (m : Medium σ) (now : Nat) (s : σ) : Course → σ × List Stream.Event × Option Course
  | .reading room use =>
    let t := m.read s room
    match t.poll with
    | .pending => (t.state, t.events, none)
    | .ready r => (t.state, t.events, some (afterRead now room use r))
  | .writing rest readAgain =>
    let t := m.write s rest
    match t.poll with
    | .pending => (t.state, t.events, none)
    | .ready r => (t.state, t.events, some (afterWrite rest readAgain r))
  | .ending =>
    let t := m.shutdown s
    match t.poll with
    | .pending => (t.state, t.events, none)
    | .ready r => (t.state, t.events, some (.ended r))
  | .pausing alarm =>
    (s, [], if alarm.isOver now then some (.write slowReply false) else none)
  | .holding | .ended _ | .following .. => (s, [], none)

/-- Steps until there is none, at most `room` of them, or until the stream is broken. -/
def runWithin (m : Medium σ) (broken : σ → Bool) (now : Nat) :
    (room : Nat) → σ → Course → σ × List Stream.Event × Course
  | 0, s, c => (s, [], c)
  | room + 1, s, c =>
    match step m now s c with
    | (s, es, none) => (s, es, c)
    | (s, es, some d) =>
      if broken s then (s, es, d)
      else
        let (s, fs, d) := runWithin m broken now room s d
        (s, es ++ fs, d)

/-- How many steps one poll takes at most. -/
def budget : Nat := 1048576

/-- Works until it has to wait. -/
def run (m : Medium σ) (broken : σ → Bool) (now : Nat) (s : σ) (c : Course) :
    σ × List Stream.Event × Course :=
  runWithin m broken now budget s c

end Course

/-- Where a handler starts. -/
def start (h : Handler) (session : Option Tls.Session) (completion : Option Connection.Completion) :
    Course :=
  match h with
  | discard => .reading discardRoom .discard
  | echo => .reading echoRoom .echo
  | hold => .holding
  | fail => .reading discardRoom .fail
  | leave => .ended (.ok ())
  | slow => .reading slowRoom (.gather slowRoom)
  | say reply => .write (reply session completion) false
  | other strategy => .following (strategy session completion) []

end Handler

end StreamHost
