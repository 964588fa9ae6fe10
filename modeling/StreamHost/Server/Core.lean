import StreamHost.Connection.Waiter
import StreamHost.Deadline
import StreamHost.Places
import StreamHost.Shutdown

/-!
A running server: `accept_loop`, which accepts clients, the places it has for them, and the `DisposableServer`
that ends it. Everything that can happen to it is an `Op`, and `Server.step` says what each one does; whoever
runs the server only chooses the order.

The loop takes a place before it accepts a client, enrolls the client in the group at once, and leaves the
place to the task that runs `serve_connection`. If a client cannot be accepted the place is free again, and the
loop pauses. When it sees the stop signal it hands the listener back. A disposal waits for that, then for
the group to be empty or for its deadline, then releases the listener, and then runs the callbacks.
-/

namespace StreamHost

open Connection (Hub Observer)

/-- Where the loop stands. -/
inductive Server.Loop where
  /-- It waits for a place. -/
  | acquiring
  /-- It holds a place and waits for a client. -/
  | accepting
  /-- It pauses after a client could not be accepted. -/
  | pausing (alarm : Alarm)
  /-- It has handed the listener back. -/
  | stopped
  /-- It died, and the listener went with it. -/
  | broken
  deriving DecidableEq, Repr

/-- What has become of the handle. -/
inductive Server.Handle where
  | held
  /-- A disposal waits for the loop. -/
  | stopping (limit : Duration) (alarm : Alarm)
  /-- A disposal waits for the group. -/
  | draining (limit : Duration) (alarm : Alarm)
  /-- The handle was dropped, and the release waits for the loop. -/
  | leaving
  | gone
  deriving DecidableEq, Repr

structure Server where
  localEnd : Address.Endpoint
  observers : List Observer := []
  group : Option Nat := none
  places : Places
  loop : Server.Loop := .acquiring
  handle : Server.Handle := .held
  /-- The connections whose tasks run; each holds a place. -/
  serving : List Nat := []
  /-- All connections that were accepted, in order. -/
  accepted : List Nat := []
  signal : Shutdown := { listeners := 1 }
  /-- Whether anybody still has the listener. -/
  listening : Bool := true
  callbacks : List String := []
  /-- Whether the end was announced. -/
  released : Bool := false
  /-- How a disposal went. -/
  disposal : Option (Except Error Unit) := none

namespace Server

/-- A server at the start. -/
def start (localEnd : Address.Endpoint) (observers : List Observer) (group : Option Nat)
    (places : Places) : Server :=
  { localEnd, observers, group, places }

/-- What can happen to a server. -/
inductive Op where
  /-- The loop takes a turn; perhaps a client waits. -/
  | turn (client : Option Address.Endpoint)
  /-- The loop cannot accept a client that waits. -/
  | fault (now : Nat)
  /-- The loop looks whether its pause is over. -/
  | resume (now : Nat)
  /-- The task of a connection ends. -/
  | finish (id : Nat)
  | addCallback (name : String)
  /-- A disposal begins. -/
  | dispose (now : Nat) (limit : Duration)
  /-- The disposal goes on. -/
  | drain (now : Nat)
  /-- The disposal is given up before its end. -/
  | abandon
  /-- The handle is dropped. -/
  | leave
  /-- The release after a drop goes on. -/
  | depart
  deriving Repr

/-- Whether the loop has ended. -/
def loopEnded (s : Server) : Bool := s.loop == .stopped || s.loop == .broken

/-- The alarm that ends a pause of the loop. -/
def pause? (s : Server) : Option Alarm :=
  match s.loop with
  | .pausing a => some a
  | _ => none

/-- Whether the loop would take a client now. -/
def wantsClient (s : Server) : Bool :=
  !s.signal.isOver && (s.loop == .accepting || (s.loop == .acquiring && decide (0 < s.places.free)))

/-- `Listener::accept` begins: the loop takes a place, if there is one. -/
def acquire (s : Server) : Server :=
  match s.loop, s.places.take? with
  | .acquiring, some places => { s with loop := .accepting, places }
  | _, _ => s

/-- `accept_loop` returns; a place that it holds is free again. The listener that it hands back is released if
nobody takes it. -/
def stopLoop (s : Server) : Server :=
  { s with
    loop := .stopped
    places := if s.loop = .accepting then s.places.give else s.places
    listening := s.listening && decide (s.handle ≠ .gone) }

/-- `admit` enrolls a client: its connection starts and joins the group before `serve_connection` gets it. If an
observer fails at this, the loop dies. -/
def enroll (h : Hub) (s : Server) (client : Address.Endpoint) : Hub × Server :=
  let (h, id) := h.create s.localEnd client s.observers s.group
  let h := h.connected id
  let s := { s with accepted := s.accepted ++ [id] }
  if h.failing then
    ({ h with failing := false }.drop id,
      { s with loop := .broken, listening := false, places := s.places.give })
  else (h, { s with loop := .acquiring, serving := s.serving ++ [id] })

/-- One turn of `accept_loop`. A pause is not cut short; otherwise the stop signal comes first. -/
def turn (h : Hub) (s : Server) (client : Option Address.Endpoint) : Hub × Server :=
  if s.loopEnded then (h, s)
  else if s.pause?.isSome then (h, s)
  else if s.signal.isOver then (h, s.stopLoop)
  else
    let s := s.acquire
    match s.loop, client with
    | .accepting, some c => enroll h s c
    | _, _ => (h, s)

/-- `ACCEPT_ERROR_BACKOFF`: how long the loop pauses after a client could not be accepted. -/
def backoff : Duration := Duration.ofMillis 50

/-- A client cannot be accepted: the place that was meant for it is free again, and the loop pauses. The
stop signal comes first here too. -/
def fault (s : Server) (now : Nat) : Server :=
  if s.loop = .accepting ∧ s.signal.isOver = false then
    { s with loop := .pausing (Alarm.after now backoff), places := s.places.give }
  else s

/-- When its pause is over the loop goes on. -/
def resume (s : Server) (now : Nat) : Server :=
  match s.pause? with
  | some alarm => if alarm.isOver now then { s with loop := .acquiring } else s
  | none => s

/-- The task around `serve_connection` ends: nobody holds the connection any more, and its place is free. -/
def finish (h : Hub) (s : Server) (id : Nat) : Hub × Server :=
  if s.serving.contains id then
    (h.drop id, { s with serving := s.serving.erase id, places := s.places.give })
  else (h, s)

/-- `release` announces the end, once: the callbacks run in the order in which they were added. -/
def release (h : Hub) (s : Server) : Hub × Server :=
  if s.released then (h, { s with callbacks := [] })
  else (h.emitAll (s.callbacks.map .released), { s with released := true, callbacks := [] })

/-- A `DisposableServer` is dropped. If the loop is still to be waited for, the release comes later. -/
def leave (s : Server) : Server := { s with signal := s.signal.trigger, handle := .leaving }

/-- `dispose_now` begins, unless its limit is too long; then the handle is lost. -/
def dispose (s : Server) (now : Nat) (limit : Duration) : Server :=
  match Deadline.check now limit with
  | .error e => { s with disposal := some (.error e) }.leave
  | .ok deadline => { s with signal := s.signal.trigger, handle := .stopping limit ⟨deadline⟩ }

/-- The end of `dispose_now`: the listener is released, and then the end is announced. -/
def conclude (h : Hub) (s : Server) (r : Except Error Unit) : Hub × Server :=
  release h { s with listening := false, handle := .gone, disposal := some r }

/-- `dispose_now` waits for the group and looks at it. -/
def drainGroup (h : Hub) (s : Server) (now : Nat) (limit : Duration) (alarm : Alarm) : Hub × Server :=
  match s.group with
  | none => conclude h s (.ok ())
  | some g =>
    if (h.members g).isEmpty then conclude h s (.ok ())
    else if alarm.isOver now then
      conclude (h.closeAll g).1 s (.error (.timeout "server dispose" limit))
    else (h, { s with handle := .draining limit alarm })

/-- The disposal goes on. -/
def drain (h : Hub) (s : Server) (now : Nat) : Hub × Server :=
  match s.handle with
  | .stopping limit alarm => if s.loopEnded then drainGroup h s now limit alarm else (h, s)
  | .draining limit alarm => drainGroup h s now limit alarm
  | _ => (h, s)

/-- The future of `dispose_now` is dropped. Whatever it holds is released: the listener only if the loop has
handed it back already. -/
def abandon (h : Hub) (s : Server) : Hub × Server :=
  match s.handle with
  | .stopping .. => release h { s with handle := .gone, listening := s.listening && !s.loopEnded }
  | .draining .. => release h { s with handle := .gone, listening := false }
  | _ => (h, s)

/-- The release after a drop. -/
def depart (h : Hub) (s : Server) : Hub × Server :=
  match s.handle with
  | .leaving =>
    if s.loopEnded then release h { s with handle := .gone, listening := false } else (h, s)
  | _ => (h, s)

/-- What an operation does. -/
def step (h : Hub) (s : Server) : Op → Hub × Server
  | .turn client => turn h s client
  | .fault now => (h, s.fault now)
  | .resume now => (h, s.resume now)
  | .finish id => finish h s id
  | .addCallback name =>
    (h, if s.handle = .held then { s with callbacks := s.callbacks ++ [name] } else s)
  | .dispose now limit => (h, if s.handle = .held then s.dispose now limit else s)
  | .drain now => drain h s now
  | .abandon => abandon h s
  | .leave => (h, if s.handle = .held then s.leave else s)
  | .depart => depart h s

/-- The alarm that a disposal waits for. -/
def alarm? (s : Server) : Option Alarm :=
  match s.handle with
  | .stopping _ a | .draining _ a => some a
  | _ => none

def shape (h : Hub) (s : Server) : String :=
  Shape.record "DisposableServer"
    [("local", s.localEnd.shape), ("group", Shape.option (s.group.map h.groupShape)),
      ("disposed", Shape.bool s.released)]

end Server

end StreamHost
