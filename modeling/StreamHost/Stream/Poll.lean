import StreamHost.Bytes
import StreamHost.IoError

/-!
Polling a byte stream. A poll either finishes, well or with a failure, or has to be repeated later. A
`Medium` is anything that can be polled for the four operations of a stream; each poll gives the state
that follows and the events that an onlooker sees.
-/

namespace StreamHost.Stream

/-- What a poll gives. -/
inductive Poll (α : Type) where
  | pending
  | ready (result : Except IoError α)

namespace Poll

variable {α : Type}

/-- A finished poll. -/
def done (a : α) : Poll α := .ready (.ok a)

/-- A failed poll. -/
def fail (e : IoError) : Poll α := .ready (.error e)

def isReady : Poll α → Bool
  | pending => false
  | ready _ => true

/-- What the poll gave, if it finished. -/
def result? : Poll α → Option (Except IoError α)
  | pending => none
  | ready r => some r

/-- Whether the poll ended in a failure. -/
def isFailure : Poll α → Bool
  | ready (.error _) => true
  | _ => false

end Poll

/-- What a tap saw. -/
inductive Sight where
  | read (bytes : Bytes)
  | endOfInput
  | readFailed (error : IoError)
  | written (bytes : Bytes)
  | shutdown
  deriving DecidableEq, Repr

/-- What an onlooker sees of a stream. -/
inductive Event where
  /-- The stream took bytes to write. -/
  | took (stream : String) (bytes : Bytes)
  | flushed (stream : String)
  | shutDown (stream : String)
  | dropped (stream : String)
  /-- A read passes a layer. -/
  | reading (layer : String)
  /-- A write passes a layer. -/
  | writing (layer : String)
  /-- A tap saw traffic. -/
  | tapped (label : String) (sight : Sight)
  deriving DecidableEq, Repr

/-- The outcome of one poll: the state that follows, what an onlooker sees, and the answer. -/
structure Turn (σ α : Type) where
  state : σ
  events : List Event
  poll : Poll α

/-- The four operations of a byte stream with states in `σ`. A read has room for a number of bytes. -/
structure Medium (σ : Type) where
  read : σ → (room : Nat) → Turn σ Bytes
  write : σ → Bytes → Turn σ Nat
  flush : σ → Turn σ Unit
  shutdown : σ → Turn σ Unit

/-- A medium keeps its contract: no read gives more than there is room for, and no write takes more
than it is offered. -/
structure Medium.Lawful {σ : Type} (m : Medium σ) : Prop where
  read_le : ∀ s room bytes, (m.read s room).poll = .ready (.ok bytes) → bytes.length ≤ room
  write_le : ∀ s bytes n, (m.write s bytes).poll = .ready (.ok n) → n ≤ bytes.length

end StreamHost.Stream
