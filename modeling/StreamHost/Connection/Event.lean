import StreamHost.Connection.Identity
import StreamHost.Connection.State
import StreamHost.Names.Registry
import StreamHost.Stream.Poll
import StreamHost.Tls.Attempt

/-!
What can be seen of connections from outside. Observers receive notices; stages, hooks and handlers show
when they run; streams show what passes through them. All of it is one sequence of events, in the order
in which things happen.
-/

namespace StreamHost.Connection

/-- What a server knows once a client has asked for a name: the name, and which entry serves it. -/
structure Completion where
  hostname : Option String
  matched : Names.Match
  deriving DecidableEq, Repr

def Completion.shape (c : Completion) : String :=
  Shape.record "SniCompletion"
    [("hostname", Shape.option (c.hostname.map Shape.text)), ("matched", c.matched.shape)]

/-- What an observer is told about a connection. -/
inductive Notice where
  | state (s : State)
  | error (e : Error)
  | completion (c : Completion)
  deriving DecidableEq, Repr

/-- What can be seen from outside. Connections go by their place in the order of their making. -/
inductive Event where
  /-- An observer got a notice about a connection. -/
  | notified (observer : String) (id : Nat) (notice : Notice)
  /-- An observer that listens for states only heard of one. -/
  | heard (observer : String) (id : Nat) (s : State)
  /-- An observer asked every member of a group to close. -/
  | closedAll (observer : String) (count : Nat)
  /-- An observer counted the members of a group. -/
  | counted (observer : String) (count : Nat)
  /-- A transport stage, by its place in the order of stages, was put around the stream of a connection. -/
  | staged (place : Nat) (id : Nat)
  /-- A transport stage showed that it was put around the stream of a connection. -/
  | wrapped (stage : String) (id : Nat)
  /-- What was written down about an attempt to secure a connection. -/
  | attempted (id : Nat) (note : Tls.Note)
  /-- The hook of a configuration was told of a handshake that succeeded. -/
  | negotiated (hook : String) (id : Nat) (session : Tls.Session)
  /-- A hook ran. -/
  | hooked (hook : String) (id : Nat) (state : Option State) (secured : Bool)
  /-- The handler started. -/
  | handling (id : Nat)
  /-- The inbound half of a connection ended. -/
  | inboundClosed (id : Nat)
  | outboundClosed (id : Nat)
  /-- A callback for the end of a server ran. -/
  | released (callback : String)
  | stream (e : Stream.Event)
  deriving DecidableEq, Repr

end StreamHost.Connection
