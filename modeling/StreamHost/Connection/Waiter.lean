import StreamHost.Alarm
import StreamHost.Connection.Hub

/-!
Waiting for connections: for the disposal of one, for a request to close it, or for a group to become
empty. Whoever waits asks again and again; `Waiter.poll` is one such question at an instant `now`.
-/

namespace StreamHost.Connection

/-- Somebody who waits. -/
inductive Waiter where
  /-- For the disposal of a connection: `on_dispose`. -/
  | disposal (id : Nat)
  /-- For a request to close a connection: `close_requested`. -/
  | closeRequest (id : Nat)
  /-- For a group to be empty: `wait_empty`. -/
  | empty (group : Nat)
  /-- `ConnectionGroup::close` asks all members to close and waits for the group to be empty; the limit starts
  with the first question. -/
  | close (group : Nat) (limit : Duration) (alarm : Option Alarm)
  deriving DecidableEq, Repr

namespace Waiter

/-- The end of a wait. -/
inductive Outcome where
  | waiting (w : Waiter)
  | ended (result : Except Error Unit)

/-- Whether a disposal has taken effect, or the connection is gone. -/
def disposalSeen (h : Hub) (id : Nat) : Bool :=
  match h.lifecycle? id with
  | some l => l.released || !l.held
  | none => true

/-- Whether a close was requested. -/
def closeSeen (h : Hub) (id : Nat) : Bool :=
  ((h.lifecycle? id).map Lifecycle.closeRequested).getD false

/-- What a question gives that is answered by yes or not yet. -/
def plain (h : Hub) (w : Waiter) (b : Bool) : Hub × Outcome :=
  (h, if b then .ended (.ok ()) else .waiting w)

/-- One question. -/
def poll (now : Nat) (h : Hub) : Waiter → Hub × Outcome
  | .disposal id => plain h (.disposal id) (disposalSeen h id)
  | .closeRequest id => plain h (.closeRequest id) (closeSeen h id)
  | .empty g => plain h (.empty g) (h.members g).isEmpty
  | .close g limit alarm =>
    let h := if alarm.isNone then (h.closeAll g).1 else h
    let a := alarm.getD (Alarm.after now limit)
    if (h.members g).isEmpty then (h, .ended (.ok ()))
    else if a.isOver now then (h, .ended (.error (.timeout "connection group close" limit)))
    else (h, .waiting (.close g limit (some a)))

end Waiter

end StreamHost.Connection
