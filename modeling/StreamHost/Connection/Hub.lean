import StreamHost.Connection.Event

/-!
All connections of a program, each with its `ConnectionLifecycle`, and the groups they belong to. Every change
of a lifecycle goes through `Hub.advance`, which moves it if `State.mayFollow` allows, keeps its group, and
tells its observers one after the other. An observer may react to a state: it can act on the same connection,
ask a group to close, count it, or fail. A failing observer ends the operation that told it; what is left of
that operation does not happen.

A group holds the connections between their start and their end. A lifecycle that nobody holds any more
is dropped, which disposes it.
-/

namespace StreamHost.Connection

/-- An operation on one lifecycle, as the methods of `ConnectionLifecycle` offer it. -/
inductive Call where
  | connected | configured | disconnecting | dispose | requestClose
  deriving DecidableEq, Repr

namespace Call

def name : Call → String
  | connected => "connected"
  | configured => "configured"
  | disconnecting => "disconnecting"
  | dispose => "dispose"
  | requestClose => "request_close"

/-- The operation that a name means. -/
def ofName? (s : String) : Option Call :=
  [connected, configured, disconnecting, dispose, requestClose].find? fun c => c.name == s

end Call

/-- What an observer does when it hears of a state. -/
inductive Reaction where
  /-- An operation on the same connection, if somebody still holds it. -/
  | call (c : Call)
  | closeAll (group : Nat)
  | count (group : Nat)
  | fail
  deriving DecidableEq, Repr

/-- A `ConnectionObserver`. -/
structure Observer where
  name : String
  /-- Whether it listens for states only, as a plain function does. -/
  statesOnly : Bool := false
  reactions : List (State × Reaction) := []
  deriving DecidableEq, Repr

namespace Observer

/-- What it does on a state. -/
def reactionsTo (o : Observer) (s : State) : List Reaction :=
  if o.statesOnly then [] else (o.reactions.filter fun r => r.1 == s).map Prod.snd

/-- The event that shows that `on_state_change` was called. -/
def stateEvent (o : Observer) (id : Nat) (s : State) : Event :=
  if o.statesOnly then .heard o.name id s else .notified o.name id (.state s)

/-- The event, if any, that shows that `on_state_change`, `on_error` or `on_sni_completion` was called. -/
def noticeEvents (o : Observer) (id : Nat) (n : Notice) : List Event :=
  match n with
  | .state s => [o.stateEvent id s]
  | _ => if o.statesOnly then [] else [.notified o.name id n]

end Observer

/-- The course of one connection: a `ConnectionLifecycle`. -/
structure Lifecycle where
  identity : Identity
  observers : List Observer := []
  group : Option Nat := none
  /-- The last state delivered. -/
  state : Option State := none
  closeRequested : Bool := false
  /-- Whether those who wait for the disposal are released. -/
  released : Bool := false
  /-- Whether anybody still holds it. -/
  held : Bool := true

def Lifecycle.shape (l : Lifecycle) : String :=
  Shape.record "ConnectionLifecycle"
    [("identity", l.identity.shape), ("state", Shape.option (l.state.map State.shape))]

/-- All connections and groups. -/
structure Hub where
  lifecycles : List Lifecycle := []
  /-- The members of each group, in the order in which they joined. -/
  groups : List (List Nat) := []
  events : List Event := []
  /-- An observer failed, and the running operation is being abandoned. -/
  failing : Bool := false

namespace Hub

def lifecycle? (h : Hub) (id : Nat) : Option Lifecycle := h.lifecycles[id]?

/-- The state of a connection. -/
def state? (h : Hub) (id : Nat) : Option State := (h.lifecycle? id).bind Lifecycle.state

def isDisposed (h : Hub) (id : Nat) : Bool := h.state? id == some .disposed

def members (h : Hub) (group : Nat) : List Nat := h.groups.getD group []

/-- The form in which a group is shown. -/
def groupShape (h : Hub) (group : Nat) : String :=
  Shape.record "ConnectionGroup" [("live", toString (h.members group).length)]

def emit (h : Hub) (e : Event) : Hub := { h with events := h.events ++ [e] }

def emitAll (h : Hub) (es : List Event) : Hub := { h with events := h.events ++ es }

def modify (h : Hub) (id : Nat) (f : Lifecycle → Lifecycle) : Hub :=
  { h with lifecycles := h.lifecycles.modify id f }

/-- A new group. -/
def newGroup (h : Hub) : Hub × Nat := ({ h with groups := h.groups ++ [[]] }, h.groups.length)

/-- A new connection, as `ConnectionLifecycle::new` makes it; its number is one more than its place. -/
def create (h : Hub) (localEnd remoteEnd : Address.Endpoint) (observers : List Observer)
    (group : Option Nat) : Hub × Nat :=
  let id := h.lifecycles.length
  ({ h with lifecycles := h.lifecycles ++ [{ identity := ⟨id + 1, localEnd, remoteEnd⟩, observers, group }] },
    id)

/-- Joins a group: `ConnectionGroup::insert`. -/
def join (h : Hub) (id : Nat) : Option Nat → Hub
  | none => h
  | some g => { h with groups := h.groups.modify g fun ms => if ms.contains id then ms else ms ++ [id] }

/-- Leaves a group: `ConnectionGroup::remove`. -/
def leave (h : Hub) (id : Nat) : Option Nat → Hub
  | none => h
  | some g => { h with groups := h.groups.modify g (·.filter (· != id)) }

/-- Keeps the group of a connection that enters a state. -/
def regroup (h : Hub) (id : Nat) (group : Option Nat) : State → Hub
  | .connected => h.join id group
  | .disposed => h.leave id group
  | _ => h

/-- The new state of a lifecycle, before `publish` tells anybody. -/
def enter (h : Hub) (id : Nat) (group : Option Nat) (s : State) : Hub :=
  (h.modify id fun l => { l with state := some s }).regroup id group s

/-- Asks a connection to close: `request_close`. -/
def requestClose (h : Hub) (id : Nat) : Hub := h.modify id fun l => { l with closeRequested := true }

/-- The members of a group that somebody holds. -/
def reachable (h : Hub) (group : Nat) : List Nat :=
  (h.members group).filter fun id => ((h.lifecycle? id).map Lifecycle.held).getD false

/-- Asks every member of a group to close, and tells how many were asked: `ConnectionGroup::close_all`. -/
def closeAll (h : Hub) (group : Nat) : Hub × Nat :=
  let ids := h.reachable group
  (ids.foldl requestClose h, ids.length)

/-- Releases those who wait for the disposal of a connection, at the end of `dispose`. -/
def release (h : Hub) (id : Nat) : Hub := h.modify id fun l => { l with released := true }

/-- An operation in terms of a move to a state. `dispose` first fires what `disconnecting` fires. -/
def callVia (move : Hub → Nat → State → Hub) (h : Hub) (id : Nat) : Call → Hub
  | .connected => move h id .connected
  | .configured => move h id .configured
  | .disconnecting => move h id .disconnecting
  | .dispose => move (move h id .disconnecting) id .disposed
  | .requestClose => h.requestClose id

/-- One reaction of an observer. -/
def react (move : Hub → Nat → State → Hub) (observer : String) (id : Nat) (h : Hub) (r : Reaction) :
    Hub :=
  if h.failing then h
  else
    match r with
    | .call c =>
      if ((h.lifecycle? id).map Lifecycle.held).getD false then callVia move h id c else h
    | .closeAll g =>
      let (h, n) := h.closeAll g
      h.emit (.closedAll observer n)
    | .count g => h.emit (.counted observer (h.members g).length)
    | .fail => { h with failing := true }

/-- `publish`, for one observer: it is told of a state and may react. -/
def tell (move : Hub → Nat → State → Hub) (id : Nat) (s : State) (h : Hub) (o : Observer) : Hub :=
  if h.failing then h
  else (o.reactionsTo s).foldl (react move o.name id) (h.emit (o.stateEvent id s))

/-- Moves a lifecycle to a state, if that state may follow. Reactions that move it further go one level
deeper; no more than `depth` levels are possible, for each goes to a later state. -/
def advanceWithin : (depth : Nat) → Hub → (id : Nat) → State → Hub
  | 0, h, _, _ => h
  | depth + 1, h, id, s =>
    match h.lifecycle? id with
    | none => h
    | some l =>
      if h.failing ∨ State.mayFollow l.state s = false then h
      else
        let h := l.observers.foldl (tell (advanceWithin depth) id s) (h.enter id l.group s)
        if s = .disposed ∧ h.failing = false then h.release id else h

/-- `ConnectionLifecycle::advance` with what follows it: moves a lifecycle to a state, if that state may follow,
keeps its group, calls `publish`, which tells the observers in order, and at the end releases those who wait.
There are four states, so moves nest at most four deep. -/
def advance (h : Hub) (id : Nat) (s : State) : Hub := advanceWithin 4 h id s

/-- An operation on a lifecycle. -/
def call (h : Hub) (id : Nat) (c : Call) : Hub := callVia advance h id c

def connected (h : Hub) (id : Nat) : Hub := h.call id .connected
def configured (h : Hub) (id : Nat) : Hub := h.call id .configured
def disconnecting (h : Hub) (id : Nat) : Hub := h.call id .disconnecting
def dispose (h : Hub) (id : Nat) : Hub := h.call id .dispose

/-- Tells the observers of a connection of something other than a state: `report_error` and `report_sni`. -/
def report (h : Hub) (id : Nat) (n : Notice) : Hub :=
  match h.lifecycle? id with
  | none => h
  | some l => h.emitAll (l.observers.flatMap fun o => o.noticeEvents id n)

def reportError (h : Hub) (id : Nat) (e : Error) : Hub := h.report id (.error e)

def reportCompletion (h : Hub) (id : Nat) (c : Completion) : Hub := h.report id (.completion c)

/-- Nobody holds a lifecycle any more, so it is dropped, which disposes it. -/
def drop (h : Hub) (id : Nat) : Hub :=
  match h.lifecycle? id with
  | some l =>
    if l.held then (h.modify id fun l => { l with held := false }).dispose id else h
  | none => h

end Hub

end StreamHost.Connection
