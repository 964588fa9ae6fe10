/-!
The states of a connection, in the only order in which they occur. The one rule of movement is
`State.mayFollow`: a connection starts with `connected`, never goes back and never stays where it is, but
it may skip states on its way.
-/

namespace StreamHost.Connection

/-- A `ConnectionState`. -/
inductive State where
  /-- Accepted or established; nothing is attached yet. -/
  | connected
  /-- Everything is attached and the handler may run. -/
  | configured
  /-- One of the peers started to close, perhaps only one half. -/
  | disconnecting
  /-- The end. -/
  | disposed
  deriving DecidableEq, Repr

namespace State

/-- The place in the order, from one. -/
def rank : State → Nat
  | connected => 1
  | configured => 2
  | disconnecting => 3
  | disposed => 4

def name : State → String
  | connected => "connected"
  | configured => "configured"
  | disconnecting => "disconnecting"
  | disposed => "disposed"

/-- The state that a name means. -/
def ofName? (s : String) : Option State :=
  [connected, configured, disconnecting, disposed].find? fun st => st.name == s

/-- The name in shapes. -/
def shape : State → String
  | connected => "Connected"
  | configured => "Configured"
  | disconnecting => "Disconnecting"
  | disposed => "Disposed"

/-- Whether a connection is live: between its start and its end. -/
def isLive : State → Bool
  | disposed => false
  | _ => true

instance : LT State := ⟨fun a b => a.rank < b.rank⟩
instance (a b : State) : Decidable (a < b) := inferInstanceAs (Decidable (a.rank < b.rank))

theorem lt_def {a b : State} : a < b ↔ a.rank < b.rank := Iff.rfl

/-- Whether a connection whose last state is `last` moves on to `next`: the test in
`ConnectionLifecycle::advance`. -/
def mayFollow (last : Option State) (next : State) : Bool :=
  match last with
  | none => next == connected
  | some s => decide (s < next)

theorem mayFollow_none {s : State} : mayFollow none s = true ↔ s = connected := by
  cases s <;> decide

theorem mayFollow_some {a b : State} : mayFollow (some a) b = true ↔ a < b := by
  simp [mayFollow]

end State

end StreamHost.Connection
