import StreamHost.Stream.Poll

/-!
Layers around a byte stream. A layer hands every operation on to the stream inside it and shows an
onlooker what passes: a named layer shows that a read or a write came by, a tap shows the bytes. Neither
changes what the operation gives.
-/

namespace StreamHost.Stream

inductive Layer where
  | named (name : String)
  | tap (label : String)
  deriving DecidableEq, Repr

namespace Layer

variable {σ : Type}

/-- What a layer shows before a read goes on inwards. -/
def beforeRead : Layer → List Event
  | named name => [.reading name]
  | tap _ => []

def beforeWrite : Layer → List Event
  | named name => [.writing name]
  | tap _ => []

/-- What a layer shows when a read comes back. -/
def afterRead : Layer → Poll Bytes → List Event
  | tap label, .ready (.ok []) => [.tapped label .endOfInput]
  | tap label, .ready (.ok bytes) => [.tapped label (.read bytes)]
  | tap label, .ready (.error e) => [.tapped label (.readFailed e)]
  | _, _ => []

/-- What a layer shows when a write of `bytes` comes back. -/
def afterWrite (bytes : Bytes) : Layer → Poll Nat → List Event
  | tap label, .ready (.ok n) => [.tapped label (.written (bytes.take n))]
  | _, _ => []

/-- What a layer shows when a shutdown comes back. -/
def afterShutdown : Layer → Poll Unit → List Event
  | tap label, .ready _ => [.tapped label .shutdown]
  | _, _ => []

/-- A medium with a layer around it. -/
def around (l : Layer) (m : Medium σ) : Medium σ where
  read s room :=
    let t := m.read s room
    { t with events := l.beforeRead ++ t.events ++ l.afterRead t.poll }
  write s bytes :=
    let t := m.write s bytes
    { t with events := l.beforeWrite ++ t.events ++ l.afterWrite bytes t.poll }
  flush := m.flush
  shutdown s :=
    let t := m.shutdown s
    { t with events := t.events ++ l.afterShutdown t.poll }

end Layer

/-- A medium with layers around it, the first one innermost. -/
def Medium.within {σ : Type} (m : Medium σ) (layers : List Layer) : Medium σ :=
  layers.foldl (fun m l => l.around m) m

/-- A stream with layers around it, the first one innermost. -/
structure Layered (σ : Type) where
  inner : σ
  layers : List Layer := []

namespace Layered

variable {σ τ : Type}

/-- Puts a layer around everything. -/
def wrap (s : Layered σ) (l : Layer) : Layered σ := { s with layers := s.layers ++ [l] }

def map (f : σ → τ) (s : Layered σ) : Layered τ := ⟨f s.inner, s.layers⟩

/-- The outcome of an operation on the stream inside. -/
def after {α : Type} (s : Layered σ) (t : Turn σ α) : Turn (Layered σ) α :=
  ⟨{ s with inner := t.state }, t.events, t.poll⟩

/-- Streams with layers as a medium. -/
def medium (m : Medium σ) : Medium (Layered σ) where
  read s room := s.after ((m.within s.layers).read s.inner room)
  write s bytes := s.after ((m.within s.layers).write s.inner bytes)
  flush s := s.after ((m.within s.layers).flush s.inner)
  shutdown s := s.after ((m.within s.layers).shutdown s.inner)

end Layered

end StreamHost.Stream
