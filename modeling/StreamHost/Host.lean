import StreamHost.Client.Dialing
import StreamHost.Listener
import StreamHost.Server.Session

/-!
Everything that runs together: one server with its sessions, and clients by name, over one network and
one clock. `Host.settle` lets everything go on until nothing moves; `Host.advance` moves the clock, and on
the way wakes whoever waits for an instant, one instant after the other.
-/

namespace StreamHost

open Connection (Shared Wire Carrier Channel Flow)
open StreamHost.Stream (Medium Turn)

/-- A server that runs. -/
structure Host.Running where
  blueprint : Server.Blueprint
  server : Server
  /-- The number of its listener. -/
  listener : Nat
  sessions : List Server.Session := []

/-- A client: a bare socket, or one with a connection. -/
inductive Host.Client where
  | bare (socket : Nat)
  | dialing (b : Client.Blueprint) (d : Client.Dialing)

structure Host where
  shared : Shared := {}
  running : Option Host.Running := none
  clients : List (String × Host.Client) := []

namespace Host

/-! ## The server -/

/-- What a server does with an operation. -/
def Running.step (s : Shared) (r : Running) (op : Server.Op) : Shared × Running :=
  let (hub, server) := r.server.step s.hub op
  ({ s with hub }, { r with server })

/-- The loop takes a turn while a client waits. A client that it accepts gets a session. -/
def Running.receive (s : Shared) (r : Running) (socket : Nat) : Shared × Running :=
  let (s, t) := r.step s (.turn (some (s.network.peerOf socket)))
  match t.server.serving.filter fun id => !r.server.serving.contains id with
  | [id] => (s, { t with sessions := t.sessions ++ [⟨id, .starting (.socket socket)⟩] })
  | _ => (s.dropWire (.socket socket), t)

/-- The loop takes turns until it would wait; `room` bounds them. -/
def Running.acceptWithin : (room : Nat) → Shared → Running → Shared × Running
  | 0, s, r => (s, r)
  | room + 1, s, r =>
    match if r.server.wantsClient then s.network.accept r.listener else none with
    | none => r.step s (.turn none)
    | some (network, socket) =>
      let (s, r) := r.receive { s with network } socket
      acceptWithin room s r

/-- How many clients wait. -/
def Running.waiting (s : Shared) (r : Running) : Nat :=
  ((s.network.listeners[r.listener]?).map fun l => l.waiting.length).getD 0

/-- A session stands somewhere else. -/
def Running.update (r : Running) (x : Server.Session) : Running :=
  { r with sessions := r.sessions.map fun y => if y.id = x.id then x else y }

/-- The task of a session ends. -/
def Running.retire (s : Shared) (r : Running) (id : Nat) : Shared × Running :=
  let (s, r) := r.step s (.finish id)
  (s.onHub fun h => { h with failing := false },
    { r with sessions := r.sessions.filter fun y => y.id != id })

/-- One session goes on, its work before a request to close; when it is over, its task ends. -/
def Running.pollSession (acc : Shared × Running) (x : Server.Session) : Shared × Running :=
  let (s, r) := acc
  let (s, x) := x.poll {} r.blueprint s
  match x.phase with
  | .ended => (r.update x).retire s x.id
  | _ => (s, r.update x)

/-- A listener that nobody has any more is unbound. -/
def Running.unbind (s : Shared) (r : Running) : Shared :=
  if r.server.listening then s else { s with network := s.network.unbind r.listener }

/-- Everything of a server goes on once. -/
def Running.poll (s : Shared) (r : Running) : Shared × Running :=
  let (s, r) := r.step s (.resume s.now)
  let (s, r) := r.acceptWithin (r.waiting s + 1) s
  let s := r.unbind s
  let (s, r) := r.sessions.foldl pollSession (s, r)
  let (s, r) := r.step s (.drain s.now)
  let (s, r) := r.step s .depart
  (r.unbind s, r)

/-! ## The clock -/

/-- What tells whether anything moved. -/
def Running.traces (s : Shared) (r : Running) : Nat × Nat × Nat × Nat :=
  (s.network.moves, s.hub.events.length, r.sessions.length, r.server.places.free)

/-- Lets a server go on until nothing moves; `room` bounds the rounds. -/
def Running.settleWithin : (room : Nat) → Shared → Running → Shared × Running
  | 0, s, r => (s, r)
  | room + 1, s, r =>
    let (t, q) := r.poll s
    if q.traces t = r.traces s then (t, q) else settleWithin room t q

/-- How many rounds there are at most before the clock moves. -/
def rounds : Nat := 65536

/-- Lets everything go on until nothing moves. -/
def settle (h : Host) : Host :=
  match h.running with
  | none => h
  | some r =>
    let (shared, r) := r.settleWithin rounds h.shared
    { h with shared, running := some r }

/-- The alarms that anybody waits for. -/
def alarms (h : Host) : List Alarm :=
  match h.running with
  | none => []
  | some r =>
    r.server.alarm?.toList ++ r.server.pause?.toList ++ r.sessions.filterMap Server.Session.alarm?

/-- The first instant after now, and not after `last`, at which an alarm goes off. -/
def nextInstant? (h : Host) (last : Nat) : Option Nat :=
  ((h.alarms.map fun a => a.due * Alarm.tick).filter fun t =>
    decide (h.shared.now < t ∧ t ≤ last)).min?

/-- Sets the clock and lets everything go on. -/
def goTo (h : Host) (t : Nat) : Host := { h with shared := { h.shared with now := t } }.settle

/-- Moves the clock on to an instant; `room` bounds the alarms on the way. -/
def advanceWithin : (room : Nat) → Host → (last : Nat) → Host
  | 0, h, last => h.goTo last
  | room + 1, h, last =>
    match h.nextInstant? last with
    | some t => advanceWithin room (h.goTo t) last
    | none => h.goTo last

/-- Moves the clock on. -/
def advance (h : Host) (d : Duration) : Host :=
  advanceWithin rounds h (h.shared.now + d.nanos)

/-! ## Starting a server -/

/-- Starts the loop of a server on its listener. -/
def serve (h : Host) (b : Server.Blueprint) (listener : Listener) : Host :=
  let (hub, group) :=
    if b.tracked then let (hub, g) := h.shared.hub.newGroup; (hub, some g)
    else (h.shared.hub, none)
  let server := Server.start listener.localEnd b.pipeline.observers group listener.places
  { h with
    shared := { h.shared with hub }
    running := some { blueprint := b, server, listener := listener.number } }

/-- Binds a server and starts its loop. What the network says to a target is `answer`; without an answer
the limit comes first. Without a result the program has ended: it asked for more places than there can
be. -/
def bindWith (h : Host) (b : Server.Blueprint) (limit : Duration)
    (answer : Address.Target → Option Shared.Answer) : Option (Except Error Host) :=
  match b.check h.shared.now limit with
  | .error e => some (.error e)
  | .ok target =>
    match answer target with
    | none => some (.error (.timeout "bind" limit))
    | some a =>
      (Listener.ofBound target b.maxConnections (a.result.map fun number => (a.shared.network, number))).map
        fun bound => bound.map fun l => { h with shared := a.shared }.serve b l.2

/-- Binds a server over a network that answers at once. -/
def bind (h : Host) (b : Server.Blueprint) (limit : Duration) : Option (Except Error Host) :=
  h.bindWith b limit fun target => some (h.shared.ask fun n => n.bind b.transport target)

/-- Does something with the server and lets everything go on. -/
def operate (h : Host) (op : Server.Op) : Host :=
  match h.running with
  | none => h
  | some r =>
    let (shared, r) := r.step h.shared op
    { h with shared, running := some r }.settle

/-- How the disposal of the server went, if it is over. -/
def disposal? (h : Host) : Option (Except Error Unit) := h.running.bind fun r => r.server.disposal

/-- Asks every member of a group to close, and tells how many were asked. -/
def closeAll (h : Host) (group : Nat) : Host × Nat :=
  let (hub, n) := h.shared.hub.closeAll group
  ({ h with shared := { h.shared with hub } }.settle, n)

/-- Listens on a domain socket without ever accepting a client. -/
def listen (h : Host) (path : String) : Host :=
  match h.shared.network.bind .native (.unix path) with
  | .ok (network, _) => { h with shared := { h.shared with network } }
  | .error _ => h

/-- Forgets the events so far. -/
def forget (h : Host) : Host := { h with shared := h.shared.onHub fun b => { b with events := [] } }

/-! ## Clients -/

def client? (h : Host) (name : String) : Option Client := h.clients.lookup name

/-- Whether a client can send and receive. -/
def isConnected (h : Host) (name : String) : Bool :=
  match h.client? name with
  | some (.bare _) | some (.dialing _ (.connected _)) => true
  | _ => false

/-- Whether a client is there and has not failed. -/
def isOpen (h : Host) (name : String) : Bool :=
  match h.client? name with
  | none | some (.dialing _ (.failed _)) => false
  | _ => true

def setClient (h : Host) (name : String) (c : Client) : Host :=
  { h with clients := (name, c) :: h.clients.filter fun e => e.1 != name }

def removeClient (h : Host) (name : String) : Host :=
  { h with clients := h.clients.filter fun e => e.1 != name }

/-- Polls a client that is connecting, and lets everything go on, until neither moves. -/
def pollClientWithin : (room : Nat) → Host → (name : String) → Host
  | 0, h, _ => h
  | room + 1, h, name =>
    match h.client? name with
    | some (.dialing b (.securing x)) =>
      let (shared, d) := Client.Dialing.poll b h.shared (.securing x)
      let g := ({ h with shared }.setClient name (.dialing b d)).settle
      if g.shared.network.moves = h.shared.network.moves then g
      else pollClientWithin room g name
    | _ => h

/-- A client that is connecting goes on. -/
def pollClient (h : Host) (name : String) : Host := pollClientWithin rounds h name

/-- A client starts to connect. -/
def connect (h : Host) (name : String) (b : Client.Blueprint) (limit : Duration) : Host :=
  let (shared, d) := Client.Dialing.start b h.shared limit
  (({ h with shared }.setClient name (.dialing b d)).settle).pollClient name

/-- Connects a bare socket. -/
def connectBare (h : Host) (name : String) (target : Address.Target) : Except IoError Host := do
  let (network, socket) ← h.shared.network.connect .native target
  return ({ h with shared := { h.shared with network } }.setClient name (.bare socket)).settle

/-- The connection of a client. -/
def channel? (h : Host) (name : String) : Option (Channel (Carrier Wire)) :=
  match h.client? name with
  | some (.dialing _ (.connected c)) => some c
  | _ => none

/-- What a client does with its socket or its connection. Everything then goes on. -/
def operateClient {α : Type} (h : Host) (name : String)
    (onSocket : Network × Nat → Turn (Network × Nat) α)
    (onConnection : Flow (Carrier (Network × Wire)) → Turn (Flow (Carrier (Network × Wire))) α) :
    Turn Host α :=
  match h.client? name with
  | some (.bare socket) =>
    let t := onSocket (h.shared.network, socket)
    ⟨{ h with shared := { h.shared with network := t.state.1 } }.settle, t.events, t.poll⟩
  | some (.dialing b (.connected c)) =>
    let (shared, c, p) := h.shared.operate c onConnection
    ⟨({ h with shared }.setClient name (.dialing b (.connected c))).settle, [], p⟩
  | _ => ⟨h, [], .fail (.bare .notConnected)⟩

/-- A client of a host as a medium. -/
def medium (name : String) : Medium Host where
  read h room :=
    h.operateClient name (Network.medium.read · room) (Shared.flowMedium.read · room)
  write h bytes :=
    h.operateClient name (Network.medium.write · bytes) (Shared.flowMedium.write · bytes)
  flush h := h.operateClient name Network.medium.flush Shared.flowMedium.flush
  shutdown h := h.operateClient name Network.medium.shutdown Shared.flowMedium.shutdown

/-- Changes the connection of a client. -/
def changeChannel (h : Host) (name : String)
    (f : Shared → Channel (Carrier Wire) → Shared × Channel (Carrier Wire)) : Host :=
  match h.client? name with
  | some (.dialing b (.connected c)) =>
    let (shared, c) := f h.shared c
    ({ h with shared }.setClient name (.dialing b (.connected c))).settle
  | _ => h

/-- How much a client reads at once. -/
def readSize : Nat := 65536

/-- Reads until the end. While nothing comes the clock moves on, but not past `last`; without an answer
that was too early. `room` bounds the reads and the moves of the clock. -/
def readAllWithin : (room : Nat) → Host → (name : String) → (last : Nat) → (got : Bytes) →
    Host × Option (Except IoError Bytes)
  | 0, h, _, _, _ => (h, none)
  | room + 1, h, name, last, got =>
    let t := (medium name).read h readSize
    match t.poll with
    | .ready (.ok []) => (t.state, some (.ok got))
    | .ready (.ok bytes) => readAllWithin room t.state name last (got ++ bytes)
    | .ready (.error e) => (t.state, some (.error e))
    | .pending =>
      match t.state.nextInstant? last with
      | some instant => readAllWithin room (t.state.goTo instant) name last got
      | none => (t.state.goTo last, none)

/-- Reads until the end, for so long at most. -/
def readAll (h : Host) (name : String) (limit : Duration) : Host × Option (Except IoError Bytes) :=
  readAllWithin rounds h name (h.shared.now + limit.nanos) []

/-- Waits for a client that is still connecting. -/
def awaitClient (h : Host) (name : String) (limit : Duration) : Host :=
  (h.advance limit).pollClient name

/-- Gives the connection of a client up. -/
def letGo (h : Host) (name : String) : Host :=
  let shared :=
    match h.client? name with
    | some (.bare socket) => h.shared.dropWire (.socket socket)
    | some (.dialing _ d) => d.letGo h.shared
    | none => h.shared
  { h with shared }.removeClient name

/-- Gives the connection of a client up, and lets everything go on. -/
def dropClient (h : Host) (name : String) : Host := (h.letGo name).settle

/-- Everything is given up where nothing can run any more: a handle that is still held announces the end
of its server, and the connections of the clients end. -/
def close (h : Host) : Host :=
  let h :=
    match h.running with
    | some r =>
      if r.server.handle = Server.Handle.held then
        let (hub, server) := r.server.release h.shared.hub
        { h with shared := { h.shared with hub }, running := some { r with server } }
      else h
    | none => h
  (h.clients.map Prod.fst).foldl letGo h

end Host

end StreamHost
