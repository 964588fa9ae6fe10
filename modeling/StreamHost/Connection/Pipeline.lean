import StreamHost.Connection.Carrier

/-!
What is attached to every new connection before its owner gets it: observers, stages around the raw
stream, a tap, and hooks. Stages are put around the stream in order, the first one innermost; then, once
the connection is set up, the tap and the hooks follow.
-/

namespace StreamHost.Connection

open StreamHost.Stream (Layered Layer Script)

/-- What is done with a raw stream before anything else: a `StreamStage`. -/
inductive TransportStage where
  /-- Shows that it was here. -/
  | announce (name : String)
  | layer (l : Layer)
  /-- Puts a script in place of the stream. -/
  | replace (s : Script)

/-- `map_stream` puts a stage around the stream of a connection. A connection that lost its stream stays
without. -/
def TransportStage.remodel (stage : TransportStage) (s : Shared) (c : Channel (Carrier Wire)) :
    Shared × Channel (Carrier Wire) :=
  if c.stream.isNone then (s, c)
  else
    match stage with
    | .announce name => (s.onHub (·.emit (.wrapped name c.id)), c)
    | .layer l => (s, c.mapStream (·.wrap l))
    | .replace script =>
      (s.dropStream c, { c with stream := some ⟨.plain ⟨.script script, []⟩, []⟩ })

/-- What a hook does, apart from showing that it ran. -/
inductive HookEffect where
  | nothing
  /-- Puts a layer with its own name around the stream. -/
  | layer
  /-- Disposes the connection. -/
  | dispose
  deriving DecidableEq, Repr

/-- A `ConnectionHook`. -/
structure Hook where
  name : String
  effect : HookEffect := .nothing
  deriving DecidableEq, Repr

structure Pipeline where
  observers : List Observer := []
  stages : List TransportStage := []
  hooks : List Hook := []
  wiretap : Bool := false

namespace Pipeline

def shape (p : Pipeline) : String :=
  Shape.record "Pipeline"
    [("observers", toString p.observers.length), ("transport_stages", toString p.stages.length),
      ("hooks", toString p.hooks.length), ("wiretap", Shape.bool p.wiretap)]

/-- One stage, with its place. -/
def wrapOnce (id : Nat) (acc : Shared × Layered Wire) (stage : TransportStage × Nat) :
    Shared × Layered Wire :=
  let (s, l) := acc
  let s := s.onHub (·.emit (.staged stage.2 id))
  match stage.1 with
  | .announce name => (s.onHub (·.emit (.wrapped name id)), l)
  | .layer layer => (s, l.wrap layer)
  | .replace script => (s.dropWire l.inner, ⟨.script script, []⟩)

/-- `Pipeline::wrap_transport` puts the stages around a raw stream. -/
def wrapTransport (p : Pipeline) (s : Shared) (id : Nat) (w : Wire) : Shared × Layered Wire :=
  p.stages.zipIdx.foldl (wrapOnce id) (s, ⟨w, []⟩)

variable {σ : Type}

/-- The tap of a connection: `Wiretap::stage`. -/
def tap (p : Pipeline) (f : Flow σ) : Flow σ :=
  if p.wiretap then
    let label := ((f.hub.lifecycle? f.channel.id).map fun l => l.identity.label).getD ""
    { f with channel := f.channel.mapStream (·.wrap (.tap label)) }
  else f

/-- One hook. -/
def runHook (f : Flow σ) (k : Hook) : Flow σ :=
  let id := f.channel.id
  let hub := f.hub.emit (.hooked k.name id (f.hub.state? id) f.channel.session.isSome)
  match k.effect with
  | .nothing => { f with hub }
  | .layer => { hub, channel := f.channel.mapStream (·.wrap (.named k.name)) }
  | .dispose => { f with hub := hub.dispose id }

/-- `Pipeline::apply` attaches the tap and then runs the hooks in order. -/
def apply (p : Pipeline) (f : Flow σ) : Flow σ := p.hooks.foldl runHook (p.tap f)

end Pipeline

end StreamHost.Connection
