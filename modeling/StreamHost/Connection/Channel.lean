import StreamHost.Connection.Hub
import StreamHost.Stream.Layer

/-!
A connection as its owner holds it: a byte stream together with a lifecycle. Polls go to the stream and
give what the stream gives. What a poll shows of the end of a half moves the lifecycle to
`disconnecting`: the inbound half ends with the first read that fails, or that finds nothing where there
was room; the outbound half ends with the first write that fails or the first shutdown that is done. The
other half goes on.
-/

namespace StreamHost.Connection

open StreamHost.Stream (Layered Medium Turn Poll)

/-- A `Connection`. -/
structure Channel (σ : Type) where
  id : Nat
  /-- The stream, unless it was lost. -/
  stream : Option (Layered σ)
  inboundClosed : Bool := false
  outboundClosed : Bool := false
  /-- What the handshake agreed on, on a secured connection. -/
  session : Option Tls.Session := none
  /-- How a server came to the configuration of a secured connection. -/
  completion : Option Completion := none

namespace Channel

variable {σ τ : Type}

def map (f : σ → τ) (c : Channel σ) : Channel τ where
  id := c.id
  stream := c.stream.map (·.map f)
  inboundClosed := c.inboundClosed
  outboundClosed := c.outboundClosed
  session := c.session
  completion := c.completion

/-- `map_stream` puts another stream in place of the present one; a lost stream stays lost. -/
def mapStream (f : Layered σ → Layered σ) (c : Channel σ) : Channel σ :=
  { c with stream := c.stream.map f }

/-- The form in which a connection is shown. -/
def shape (c : Channel σ) (h : Hub) : String :=
  let l := h.lifecycle? c.id
  Shape.record "Connection"
    [("identity", (l.map fun l => l.identity.shape).getD ""),
      ("state", Shape.option ((l.bind Lifecycle.state).map State.shape)),
      ("sni", Shape.option (c.completion.map Completion.shape))]

end Channel

/-- A connection among all connections. -/
structure Flow (σ : Type) where
  hub : Hub
  channel : Channel σ

namespace Flow

variable {σ : Type}

/-- The failure that `stream_mut` gives for a connection that lost its stream. -/
def detached : IoError := .custom .notConnected "connection stream detached"

/-- `close_inbound`, which does its work once. -/
def closeInbound (f : Flow σ) : Flow σ :=
  if f.channel.inboundClosed then f
  else
    { hub := (f.hub.emit (.inboundClosed f.channel.id)).disconnecting f.channel.id
      channel := { f.channel with inboundClosed := true } }

/-- `close_outbound`, which does its work once. -/
def closeOutbound (f : Flow σ) : Flow σ :=
  if f.channel.outboundClosed then f
  else
    { hub := (f.hub.emit (.outboundClosed f.channel.id)).disconnecting f.channel.id
      channel := { f.channel with outboundClosed := true } }

/-- An operation on the stream; what it shows is recorded. -/
def operate {α : Type} (op : Layered σ → Turn (Layered σ) α) (f : Flow σ) : Flow σ × Poll α :=
  match f.channel.stream with
  | none => (f, .fail detached)
  | some s =>
    let t := op s
    ({ hub := f.hub.emitAll (t.events.map .stream)
       channel := { f.channel with stream := some t.state } }, t.poll)

/-- Whether a read that had room for `room` bytes shows the end of the inbound half. -/
def endsInbound (room : Nat) : Poll Bytes → Bool
  | .ready (.ok []) => decide (0 < room)
  | .ready (.error _) => true
  | _ => false

/-- `poll_read`. -/
def read (m : Medium σ) (f : Flow σ) (room : Nat) : Turn (Flow σ) Bytes :=
  let (g, p) := f.operate fun s => (Layered.medium m).read s room
  ⟨if f.channel.stream.isSome && endsInbound room p then g.closeInbound else g, [], p⟩

/-- `poll_write`. -/
def write (m : Medium σ) (f : Flow σ) (bytes : Bytes) : Turn (Flow σ) Nat :=
  let (g, p) := f.operate fun s => (Layered.medium m).write s bytes
  ⟨if f.channel.stream.isSome && p.isFailure then g.closeOutbound else g, [], p⟩

/-- `poll_flush`. -/
def flush (m : Medium σ) (f : Flow σ) : Turn (Flow σ) Unit :=
  let (g, p) := f.operate (Layered.medium m).flush
  ⟨g, [], p⟩

/-- `poll_shutdown`. -/
def shutdown (m : Medium σ) (f : Flow σ) : Turn (Flow σ) Unit :=
  let (g, p) := f.operate (Layered.medium m).shutdown
  ⟨if f.channel.stream.isSome && p.isReady then g.closeOutbound else g, [], p⟩

/-- Connections as a medium. What their streams show is recorded with the lifecycles. -/
def medium (m : Medium σ) : Medium (Flow σ) := ⟨read m, write m, flush m, shutdown m⟩

end Flow

end StreamHost.Connection
