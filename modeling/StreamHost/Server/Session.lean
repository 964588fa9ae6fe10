import StreamHost.Server.Blueprint

/-!
The course of one accepted connection, as `serve_connection` takes it: the transport stages, the handshake if
there is a registry, the tap and the hooks, then `configured`, then the handler, and at the end disposal. A
request to close ends it during the handshake or while the handler runs. Whether that request or the work is
looked at first is left open wherever both may go on. The handler owns its connection, and may give it up
before it is over. A failing observer ends the course at any time.
-/

namespace StreamHost.Server

open Connection (Shared Wire Carrier Channel Flow Pipeline Operation)
open StreamHost.Stream (Layered)

/-- The connection of a handler, as long as the handler has it. -/
abbrev Session.Own := Option (Channel (Carrier Wire))

/-- Where a session stands. -/
inductive Session.Phase where
  | starting (w : Wire)
  | securing (a : Tls.Acceptance (Layered Wire))
  | handling (own : Own) (course : Handler.Course)
  | ended

structure Session where
  id : Nat
  phase : Session.Phase

namespace Session

/-- What one poll looks at first, wherever it waits for its work and for a request to close. -/
structure Choices where
  /-- The request comes before the handshake. -/
  beforeHandshake : Bool := false
  /-- The request comes before the handler. -/
  beforeHandler : Bool := false
  deriving DecidableEq, Repr

/-- Whether somebody asked for the end of the connection. -/
def closeRequested (s : Shared) (id : Nat) : Bool := Connection.Waiter.closeSeen s.hub id

/-! ## The handler -/

/-- Gives up what a handler has. -/
def dropOwn (s : Shared) : Own → Shared
  | none => s
  | some c => s.dropChannel c

/-- One step of a handler that follows a strategy: what it has then, and what it has been given unless it has
to wait. What it does not have it cannot use. -/
def follow (s : Shared) (own : Own) (given : List Operation.Answer) :
    Handler.Want → Shared × Own × Option (List Operation.Answer)
  | .use u =>
    match own with
    | none => (s, none, none)
    | some c =>
      let (s, c, answer) := u.perform s c
      (s, some c, answer.map (· :: given))
  | .pause alarm => (s, own, if alarm.isOver s.now then some (.done (.ok ()) :: given) else none)
  | .drop => (dropOwn s own, none, some (.done (.ok ()) :: given))
  | .hold | .finish _ => (s, own, none)

/-- Steps until there is none, at most `room` of them, or until an observer fails. -/
def followWithin (strategy : Handler.Strategy) :
    (room : Nat) → Shared → Own → List Operation.Answer → Shared × Own × List Operation.Answer
  | 0, s, own, given => (s, own, given)
  | room + 1, s, own, given =>
    if s.hub.failing then (s, own, given)
    else
      match follow s own given (strategy given) with
      | (s, own, none) => (s, own, given)
      | (s, own, some given) => followWithin strategy room s own given

/-- A handler that needs no more than a stream works on its connection. -/
def workOn (s : Shared) (c : Channel (Carrier Wire)) (course : Handler.Course) :
    Shared × Channel (Carrier Wire) × Handler.Course :=
  s.act c fun f =>
    let (f, _, course) := course.run Shared.flowMedium (fun f => f.hub.failing) s.now f
    (f, course)

/-- The handler works until it has to wait. -/
def work (s : Shared) (own : Own) (course : Handler.Course) : Shared × Own × Handler.Course :=
  match course with
  | .following strategy given =>
    let (s, own, given) := followWithin strategy Handler.Course.budget s own given
    (s, own, .following strategy given)
  | _ =>
    match own with
    | none => (s, none, course)
    | some c =>
      let (s, c, course) := workOn s c course
      (s, some c, course)

/-- The end of `serve_connection` once its handler is over or cut off: what the handler still has goes with it,
then its failure is reported, and at last the connection is disposed, wherever it is by then. -/
def leave (s : Shared) (id : Nat) (own : Own) (failure : Option IoError) : Shared :=
  let s := dropOwn s own
  let s :=
    match failure with
    | some e => if s.hub.failing then s else s.onHub (·.reportError id (.io e))
    | none => s
  s.onHub (·.dispose id)

/-- What follows the work of a handler. -/
def conclude (s : Shared) (id : Nat) (own : Own) (course : Handler.Course) : Shared × Phase :=
  if s.hub.failing then (s, .handling own course)
  else
    match course.result? with
    | some (.error e) => (leave s id own (some e), .ended)
    | some (.ok ()) => (leave s id own none, .ended)
    | none => if closeRequested s id then (leave s id own none, .ended) else (s, .handling own course)

/-- The handler goes on. -/
def handle (choices : Choices) (s : Shared) (id : Nat) (own : Own) (course : Handler.Course) :
    Shared × Phase :=
  if choices.beforeHandler && closeRequested s id then (leave s id own none, .ended)
  else
    let (s, own, course) := work s own course
    conclude s id own course

/-! ## The way to the handler -/

/-- `Pipeline::apply` attaches the tap and the hooks, and then the connection is configured. -/
def prepare (b : Blueprint) (s : Shared) (c : Channel (Carrier Wire)) :
    Shared × Channel (Carrier Wire) :=
  let (s, c, _) := s.act c fun f =>
    let f := b.pipeline.apply f
    ({ f with hub := f.hub.configured f.channel.id }, ())
  (s, c)

/-- Everything is attached, and then the handler starts. -/
def configure (choices : Choices) (b : Blueprint) (s : Shared) (c : Channel (Carrier Wire)) :
    Shared × Phase :=
  let (s, c) := prepare b s c
  let course := b.handler.start c.session c.completion
  if s.hub.failing then (s, .handling (some c) course)
  else handle choices (s.onHub (·.emit (.handling c.id))) c.id (some c) course

/-- A handshake is done: `SniResolver::accept` tells the hook of the chosen configuration and the observers of
it. -/
def reportHandshake (s : Shared) (id : Nat) (chosen : Tls.Configuration) (session : Tls.Session)
    (completion : Connection.Completion) : Shared :=
  let s := match chosen.hook with
    | some hook => s.onHub (·.emit (.negotiated hook id session))
    | none => s
  s.onHub (·.reportCompletion id completion)

/-- One poll of `SniResolver::accept` over the shared network. What is new about it is recorded. -/
def pollHandshake (s : Shared) (r : Tls.Registry) (id : Nat) (a : Tls.Acceptance (Layered Wire)) :
    Shared × Tls.Acceptance (Layered Wire) :=
  let (b, es) := (a.map fun l => l.map fun w => (s.network, w)).poll
    (Layered.medium Wire.medium) r s.now
  let notes := b.attempt.notes.drop a.attempt.notes.length
  ({ s with
      network := b.stream.inner.inner.1
      hub := (s.hub.emitAll (es.map .stream)).emitAll (notes.map (.attempted id)) },
    b.map fun l => l.map Prod.snd)

/-- The handshake is given up, and nobody is told why. -/
def forsake (s : Shared) (id : Nat) (a : Tls.Acceptance (Layered Wire)) : Shared × Phase :=
  ((s.dropWire a.stream.inner.inner).onHub (·.dispose id), .ended)

/-- The handshake goes on. -/
def secure (choices : Choices) (b : Blueprint) (r : Tls.Registry) (s : Shared) (id : Nat)
    (a : Tls.Acceptance (Layered Wire)) : Shared × Phase :=
  if choices.beforeHandshake && closeRequested s id then forsake s id a
  else
    let (s, a) := pollHandshake s r id a
    match a.attempt.phase, a.stream with
    | .completed hostname resolution session, .securing stream =>
      let session := { session with hostname }
      let completion := ⟨hostname, resolution.matched⟩
      let s := reportHandshake s id resolution.chosen session completion
      configure choices b s { id, stream := some ⟨.secured stream, []⟩, session, completion }
    | .failed e, stream =>
      let s := s.dropWire stream.inner.inner
      (s.onHub fun h => (h.reportError id e).dispose id, .ended)
    | _, _ => if closeRequested s id then forsake s id a else (s, .securing a)

/-- `Pipeline::wrap_transport` puts the transport stages around the stream. -/
def begin (choices : Choices) (b : Blueprint) (s : Shared) (id : Nat) (w : Wire) : Shared × Phase :=
  let (s, l) := b.pipeline.wrapTransport s id w
  match b.registry with
  | some r => secure choices b r s id (Tls.Acceptance.start r s.now l)
  | none => configure choices b s { id, stream := some ⟨.plain l, []⟩ }

/-! ## Polls -/

/-- `serve_connection` goes on as far as it can. -/
def advance (choices : Choices) (b : Blueprint) (s : Shared) (x : Session) : Shared × Phase :=
  match x.phase with
  | .starting w => begin choices b s x.id w
  | .securing a =>
    match b.registry with
    | some r => secure choices b r s x.id a
    | none => (s, .ended)
  | .handling own course => handle choices s x.id own course
  | .ended => (s, .ended)

/-- A failing observer ends a session: what it holds is given up, and nothing of `serve_connection` is left to
happen. -/
def breakOff (s : Shared) (p : Phase) : Shared :=
  let s := s.onHub fun h => { h with failing := false }
  let s :=
    match p with
    | .starting w => s.dropWire w
    | .securing a => s.dropWire a.stream.inner.inner
    | .handling own _ => dropOwn s own
    | .ended => s
  s.onHub fun h => { h with failing := false }

/-- A session after it did something: it is over if an observer failed at that. -/
def after (x : Session) (r : Shared × Phase) : Shared × Session :=
  if r.1.hub.failing then (breakOff r.1 r.2, { x with phase := .ended }) else (r.1, { x with phase := r.2 })

/-- One poll of a session. -/
def poll (choices : Choices) (b : Blueprint) (s : Shared) (x : Session) : Shared × Session :=
  x.after (advance choices b s x)

/-- The alarm that a session waits for. -/
def alarm? (x : Session) : Option Alarm :=
  match x.phase with
  | .securing a => a.attempt.alarm?
  | .handling _ course => course.alarm?
  | _ => none

/-! ## Handlers of any kind -/

/-- What can be done with a session. A handler may be anything: it may turn to something else at any time, use
its connection as it likes, give it up, and fail altogether. -/
inductive Act where
  | goOn (choices : Choices)
  /-- The handler wants something else next. -/
  | want (course : Handler.Course)
  | use (u : Operation)
  /-- The handler gives its connection up and goes on without it. -/
  | drop
  /-- The handler breaks down. -/
  | breakDown

/-- What an act does to a handler. -/
def Act.onHandler (s : Shared) (own : Own) (course : Handler.Course) : Act → Shared × Phase
  | .goOn _ => (s, .handling own course)
  | .want course => (s, .handling own course)
  | .use u =>
    match own with
    | none => (s, .handling none course)
    | some c => let (s, c) := u.apply s c; (s, .handling (some c) course)
  | .drop => (dropOwn s own, .handling none course)
  | .breakDown => (s.onHub fun h => { h with failing := true }, .handling own course)

/-- What an act does; only a handler that runs can do anything of its own. -/
def Act.perform (b : Blueprint) (s : Shared) (x : Session) (act : Act) : Shared × Phase :=
  match act, x.phase with
  | .goOn choices, _ => advance choices b s x
  | act, .handling own course => act.onHandler s own course
  | _, p => (s, p)

end Session

end StreamHost.Server
