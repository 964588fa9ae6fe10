import StreamHost.Connection.Channel
import StreamHost.Network
import StreamHost.Stream.Script
import StreamHost.Tls.Acceptance

/-!
What carries the bytes of a connection: a socket, or a script that stands in for one, inside the layers of
the transport, and over these perhaps a TLS session. All connections share one network, so an operation on
a carrier also changes the network.
-/

namespace StreamHost.Connection

open StreamHost.Stream (Layered Medium Turn Poll Script)

/-- What the bytes of a connection go over. -/
inductive Wire where
  | socket (id : Nat)
  | script (s : Script)

namespace Wire

/-- An operation on a wire, by what the wire is. -/
def operate {α : Type} (socket : Network × Nat → Turn (Network × Nat) α)
    (script : Script → Turn Script α) (s : Network × Wire) : Turn (Network × Wire) α :=
  match s.2 with
  | .socket id => let t := socket (s.1, id); ⟨(t.state.1, .socket id), t.events, t.poll⟩
  | .script x => let t := script x; ⟨(s.1, .script t.state), t.events, t.poll⟩

/-- Wires as a medium. -/
def medium : Medium (Network × Wire) where
  read s room := operate (Network.medium.read · room) (Script.medium.read · room) s
  write s bytes := operate (Network.medium.write · bytes) (Script.medium.write · bytes) s
  flush := operate Network.medium.flush Script.medium.flush
  shutdown := operate Network.medium.shutdown Script.medium.shutdown

/-- Gives a wire up. -/
def drop (n : Network) : Wire → Network × List Stream.Event
  | .socket id => (n.close id, [])
  | .script s => (n, [.dropped s.name])

end Wire

/-- The stream of a connection under its own layers. -/
inductive Carrier (σ : Type) where
  | plain (s : Layered σ)
  | secured (s : Tls.Secured (Layered σ))

namespace Carrier

variable {σ τ : Type}

/-- What is inside. -/
def inner : Carrier σ → σ
  | plain s => s.inner
  | secured s => s.inner.inner

def map (f : σ → τ) : Carrier σ → Carrier τ
  | plain s => plain (s.map f)
  | secured s => secured { s with inner := s.inner.map f }

/-- An operation on a carrier, by whether it is secured. -/
def operate {α : Type} (onPlain : Layered σ → Turn (Layered σ) α)
    (onSecured : Tls.Secured (Layered σ) → Turn (Tls.Secured (Layered σ)) α)
    (c : Carrier σ) : Turn (Carrier σ) α :=
  match c with
  | plain s => let t := onPlain s; ⟨.plain t.state, t.events, t.poll⟩
  | secured s => let t := onSecured s; ⟨.secured t.state, t.events, t.poll⟩

/-- Carriers as a medium. -/
def medium (m : Medium σ) : Medium (Carrier σ) :=
  let plain := Layered.medium m
  let secured := Tls.Secured.medium plain
  { read := fun c room => operate (plain.read · room) (secured.read · room) c
    write := fun c bytes => operate (plain.write · bytes) (secured.write · bytes) c
    flush := operate plain.flush secured.flush
    shutdown := operate plain.shutdown secured.shutdown }

end Carrier

/-- What all connections share: the clock, the network and the lifecycles. -/
structure Shared where
  now : Nat := 0
  network : Network := {}
  hub : Hub := {}

namespace Shared

/-- Changes the lifecycles. -/
def onHub (s : Shared) (f : Hub → Hub) : Shared := { s with hub := f s.hub }

/-- Gives a wire up and records what that shows. -/
def dropWire (s : Shared) (w : Wire) : Shared :=
  let (network, es) := w.drop s.network
  { s with network, hub := s.hub.emitAll (es.map .stream) }

/-- Gives the stream of a connection up. -/
def dropStream (s : Shared) (c : Channel (Carrier Wire)) : Shared :=
  match c.stream with
  | none => s
  | some l => s.dropWire l.inner.inner

/-- A connection loses its stream. -/
def detach (s : Shared) (c : Channel (Carrier Wire)) : Shared × Channel (Carrier Wire) :=
  (s.dropStream c, { c with stream := none })

/-- A `Connection` is dropped: its stream goes first, then it is disposed. -/
def dropChannel (s : Shared) (c : Channel (Carrier Wire)) : Shared :=
  (s.dropStream c).onHub (·.dispose c.id)

/-- What comes of a question to the network: a socket or a listener by its number, or a failure. By then
anything else may have gone on. -/
structure Answer where
  shared : Shared
  result : Except IoError Nat

/-- Asks the network, which answers at once. -/
def ask (s : Shared) (question : Network → Except IoError (Network × Nat)) : Answer :=
  match question s.network with
  | .ok (network, number) => ⟨{ s with network }, .ok number⟩
  | .error e => ⟨s, .error e⟩

/-- The connections of a network as a medium. -/
def flowMedium : Medium (Flow (Carrier (Network × Wire))) :=
  Flow.medium (Carrier.medium Wire.medium)

/-- Lets something act on a connection over the shared network. -/
def act {β : Type} (s : Shared) (c : Channel (Carrier Wire))
    (f : Flow (Carrier (Network × Wire)) → Flow (Carrier (Network × Wire)) × β) :
    Shared × Channel (Carrier Wire) × β :=
  let (g, b) := f { hub := s.hub, channel := c.map (·.map fun w => (s.network, w)) }
  let network := (g.channel.stream.map fun l => l.inner.inner.1).getD s.network
  ({ s with network, hub := g.hub }, g.channel.map (·.map Prod.snd), b)

/-- One operation on a connection. -/
def operate {α : Type} (s : Shared) (c : Channel (Carrier Wire))
    (op : Flow (Carrier (Network × Wire)) → Turn (Flow (Carrier (Network × Wire))) α) :
    Shared × Channel (Carrier Wire) × Poll α :=
  s.act c fun f => let t := op f; (t.state, t.poll)

end Shared

end StreamHost.Connection
