import StreamHost.Client.Blueprint

/-!
How `TcpClient::connect_now` gets a connection: `connect_stream` dials, the connection starts, the transport
stages are put around the stream, a handshake follows if there is one, then the tap and the hooks, then
`configured`. All of it has one deadline. A handshake that fails is reported; one that is cut off by the
deadline is not.
-/

namespace StreamHost.Client

open Connection (Shared Wire Carrier Channel Flow)
open StreamHost.Stream (Layered)

/-- A handshake under way. -/
structure Dialing.Securing where
  id : Nat
  stream : Tls.Secured (Layered Wire)
  /-- The name that the client asked for. -/
  requested : String
  limit : Duration
  alarm : Alarm

/-- Where a client stands. -/
inductive Dialing where
  | securing (s : Dialing.Securing)
  | failed (e : Error)
  | connected (c : Channel (Carrier Wire))

namespace Dialing

/-- The last steps of `TcpClient::establish`: `Pipeline::apply`, then `configured`. -/
def configure (b : Blueprint) (s : Shared) (c : Channel (Carrier Wire)) : Shared × Dialing :=
  let (s, c, _) := s.act c fun f =>
    let f := b.pipeline.apply f
    ({ f with hub := f.hub.configured f.channel.id }, ())
  (s, .connected c)

/-- The future of `TcpClient::establish` is over without a connection, so the lifecycle is dropped. -/
def giveUp (s : Shared) (id : Nat) (w : Wire) (report : Option Error) : Shared :=
  let s := s.dropWire w
  let s := match report with
    | some e => s.onHub (·.reportError id e)
    | none => s
  s.onHub (·.drop id)

/-- One poll of `handshake`. -/
def secure (b : Blueprint) (s : Shared) (x : Securing) : Shared × Dialing :=
  let t := Tls.Secured.handshake (Layered.medium Wire.medium)
    { x.stream with inner := x.stream.inner.map fun w => (s.network, w) }
  let stream := { t.state with inner := t.state.inner.map Prod.snd }
  let s := { s with
    network := t.state.inner.inner.1, hub := s.hub.emitAll (t.events.map .stream) }
  match t.poll with
  | .ready (.ok ()) =>
    let session : Tls.Session := { stream.engine.session with hostname := some x.requested }
    configure b s { id := x.id, stream := some ⟨.secured stream, []⟩, session }
  | .ready (.error e) =>
    let e := Error.handshake e.message
    (giveUp s x.id stream.inner.inner (some e), .failed e)
  | .pending =>
    if x.alarm.isOver s.now then
      (giveUp s x.id stream.inner.inner none, .failed (.timeout "connect" x.limit))
    else (s, .securing { x with stream })

/-- The host that a target names. -/
def host? : Address.Target → Option String
  | .inet host _ => some host
  | .unix _ => none

/-- The far end of a connection to a target. -/
def remoteEnd : Address.Target → Address.Endpoint
  | .inet host port =>
    match Network.resolve host with
    | .ok ip => .inet (.ofIp ip port)
    | .error _ => .unix none
  | .unix path => .unix (some path)

/-- `TcpClient::establish`, once `connect_stream` has a socket. -/
def establish (b : Blueprint) (s : Shared) (target : Address.Target) (socket : Nat)
    (limit : Duration) (alarm : Alarm) : Shared × Dialing :=
  let (hub, id) := s.hub.create (.unix none) (remoteEnd target) b.pipeline.observers b.group
  let s := { s with hub := hub.connected id }
  let (s, l) := b.pipeline.wrapTransport s id (.socket socket)
  match b.security with
  | none => configure b s { id, stream := some ⟨.plain l, []⟩ }
  | some security =>
    match security.serverNameFor (host? target) with
    | .error e => (giveUp s id l.inner (some e), .failed e)
    | .ok (requested, name) =>
      secure b s ⟨id, { inner := l, engine := Tls.Engine.client (security.terms name) }, requested,
        limit, alarm⟩

/-- `TcpClient::connect_now` starts. What `connect_stream` says to a target is `answer`; without an answer the
limit comes first. A limit that is over already leaves no time to notice that the socket is connected. -/
def startWith (b : Blueprint) (s : Shared) (limit : Duration)
    (answer : Address.Target → Option Shared.Answer) : Shared × Dialing :=
  match Deadline.check s.now limit, b.target with
  | .error e, _ => (s, .failed e)
  | .ok _, .error e => (s, .failed e)
  | .ok deadline, .ok target =>
    match answer target with
    | none => (s, .failed (.timeout "connect" limit))
    | some ⟨t, .error e⟩ => (t, .failed (.io e))
    | some ⟨t, .ok socket⟩ =>
      let alarm : Alarm := ⟨deadline⟩
      if alarm.isOver s.now then
        (t.dropWire (.socket socket), .failed (.timeout "connect" limit))
      else establish b t target socket limit alarm

/-- Starts to connect over a network that answers at once. -/
def start (b : Blueprint) (s : Shared) (limit : Duration) : Shared × Dialing :=
  startWith b s limit fun target => some (s.ask fun n => n.connect b.transport target)

/-- The owner gives the connection up. -/
def letGo (s : Shared) : Dialing → Shared
  | .securing x => giveUp s x.id x.stream.inner.inner none
  | .connected c => (s.dropChannel c).onHub (·.drop c.id)
  | .failed _ => s

/-- One poll. -/
def poll (b : Blueprint) (s : Shared) : Dialing → Shared × Dialing
  | .securing x => secure b s x
  | d => (s, d)

end Dialing

end StreamHost.Client
