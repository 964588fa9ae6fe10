import StreamHost.Alarm
import StreamHost.Tls.Alert
import StreamHost.Tls.Registry

/-!
An attempt of a server to secure a connection, with the engine's part left open. The attempt waits for
the opening message as long as the default configuration allows; the requested name then selects the
configuration that drives the rest, and that has its own limit, counted from the message. News that
comes in time counts even at the instant at which the limit ends.
-/

namespace StreamHost.Tls

/-- Where an attempt stands: a `HandshakeState`. -/
inductive Progress where
  | awaitingHello | resolved | inProgress | completed | failed
  deriving DecidableEq, Repr

namespace Progress

def text : Progress → String
  | awaitingHello => "awaiting hello"
  | resolved => "resolved"
  | inProgress => "handshake in progress"
  | completed => "completed"
  | failed => "failed"

end Progress

/-- What is written down about an attempt. -/
inductive Note where
  | moved (old new : Progress)
  | selected (hostname : Option String) (matched : Names.Match)
  | failedAt (progress : Progress)
  /-- What the engine left in the log. -/
  | remarked (r : Remark)
  deriving DecidableEq, Repr

namespace Note

/-- Whether a note is about the attempt itself, and not about the engine. -/
def isOwn : Note → Bool
  | remarked _ => false
  | _ => true

def text : Note → String
  | moved old new => old.text ++ " -> " ++ new.text
  | selected hostname matched =>
    "hostname=" ++ hostname.getD "-" ++ " matched=" ++ matched.shape
  | failedAt progress => "TLS handshake failed at " ++ progress.text
  | remarked r => r.text

end Note

/-- What the engine has to tell. -/
inductive News where
  /-- Nothing new. -/
  | nothing
  /-- The opening message came, with the name it asks for. -/
  | hello (hostname : Option String)
  | established (session : Session)
  | broken (reason : String)
  deriving DecidableEq, Repr

/-- What an attempt has come to. -/
inductive Attempt.Phase where
  | awaitingHello
  | engaged (hostname : Option String) (resolution : Names.Resolution Configuration)
  | completed (hostname : Option String) (resolution : Names.Resolution Configuration)
      (session : Session)
  | failed (error : Error)

structure Attempt where
  phase : Attempt.Phase
  /-- The end of the present limit. -/
  alarm : Alarm
  notes : List Note := []

namespace Attempt

def start (r : Registry) (now : Nat) : Attempt where
  phase := .awaitingHello
  alarm := Alarm.after now r.fallback.timeout

/-- The attempt fails: `Tracker::fail`. -/
def fail (a : Attempt) (p : Progress) (reason : String) : Attempt :=
  { a with
    phase := .failed (.handshake (p.text ++ ": " ++ reason))
    notes := a.notes ++ [.moved p .failed, .failedAt p] }

/-- Remarks of the engine are written down. -/
def remark (a : Attempt) (rs : List Remark) : Attempt :=
  { a with notes := a.notes ++ rs.map .remarked }

/-- The opening message selects a configuration. -/
def engage (r : Registry) (now : Nat) (a : Attempt) (hostname : Option String) : Attempt :=
  let resolution := r.lookup hostname
  { phase := .engaged hostname resolution
    alarm := Alarm.after now resolution.chosen.timeout
    notes := a.notes ++ [.moved .awaitingHello .resolved, .selected hostname resolution.matched,
      .moved .resolved .inProgress] }

/-- What the attempt of `SniResolver::accept` becomes when it hears `n` at the instant `now`. -/
def hear (r : Registry) (now : Nat) (a : Attempt) (n : News) : Attempt :=
  match a.phase, n with
  | .awaitingHello, .hello hostname => a.engage r now hostname
  | .awaitingHello, .broken reason => a.fail .awaitingHello reason
  | .awaitingHello, _ =>
    if a.alarm.isOver now then
      a.fail .awaitingHello ("no ClientHello within " ++ r.fallback.timeout.text)
    else a
  | .engaged hostname resolution, .established session =>
    { a with
      phase := .completed hostname resolution session
      notes := a.notes ++ [.moved .inProgress .completed] }
  | .engaged _ _, .broken reason => a.fail .inProgress reason
  | .engaged _ resolution, _ =>
    if a.alarm.isOver now then
      a.fail .inProgress ("handshake not finished within " ++ resolution.chosen.timeout.text)
    else a
  | _, _ => a

/-- The alarm of an attempt that still waits. -/
def alarm? (a : Attempt) : Option Alarm :=
  match a.phase with
  | .awaitingHello | .engaged _ _ => some a.alarm
  | _ => none

end Attempt

end StreamHost.Tls
