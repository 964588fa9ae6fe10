import StreamHost.Connection.Hub

/-!
Counting what happens to connections. `Metrics.record` takes the notices of one observer, in order;
every notice touches one or two numbers. A number exists once it has been touched.
-/

namespace StreamHost

open Connection (Notice State)

structure Metrics where
  /-- How often each state was entered. -/
  connected : Nat := 0
  configured : Nat := 0
  disconnecting : Nat := 0
  disposed : Nat := 0
  /-- How many connections are live; absent before the first change. -/
  active : Option Int := none
  handshakeFailures : Nat := 0
  connectionErrors : Nat := 0
  exactMatches : Nat := 0
  wildcardMatches : Nat := 0
  defaultMatches : Nat := 0
  deriving DecidableEq, Repr

namespace Metrics

/-- Changes the number of live connections. -/
def shift (m : Metrics) (by_ : Int) : Metrics := { m with active := some (m.active.getD 0 + by_) }

def recordState (m : Metrics) : State → Metrics
  | .connected => { m with connected := m.connected + 1 }.shift 1
  | .configured => { m with configured := m.configured + 1 }
  | .disconnecting => { m with disconnecting := m.disconnecting + 1 }
  | .disposed => { m with disposed := m.disposed + 1 }.shift (-1)

/-- A failed handshake counts apart from all other failures. -/
def recordError (m : Metrics) : Error → Metrics
  | .handshake _ => { m with handshakeFailures := m.handshakeFailures + 1 }
  | _ => { m with connectionErrors := m.connectionErrors + 1 }

def recordMatch (m : Metrics) : Names.Match → Metrics
  | .exact _ => { m with exactMatches := m.exactMatches + 1 }
  | .wildcard _ => { m with wildcardMatches := m.wildcardMatches + 1 }
  | .default => { m with defaultMatches := m.defaultMatches + 1 }

/-- One notice. -/
def record (m : Metrics) : Notice → Metrics
  | .state s => m.recordState s
  | .error e => m.recordError e
  | .completion c => m.recordMatch c.matched

/-- The notices that an observer got, in order. -/
def noticesOf (observer : String) (events : List Connection.Event) : List Notice :=
  events.filterMap fun e =>
    match e with
    | .notified o _ n => if o = observer then some n else none
    | _ => none

/-- The metrics after some events, for the observer that feeds them. -/
def ofEvents (observer : String) (events : List Connection.Event) : Metrics :=
  (noticesOf observer events).foldl record {}

/-- A counter, if it has been touched. -/
def touched (name : String) (n : Nat) : List (String × Int) := if n = 0 then [] else [(name, n)]

/-- All numbers that exist, by name. -/
def entries (m : Metrics) : List (String × Int) :=
  touched "tcp_runtime_connections_total\x7bstate=connected\x7d" m.connected ++
  touched "tcp_runtime_connections_total\x7bstate=configured\x7d" m.configured ++
  touched "tcp_runtime_connections_total\x7bstate=disconnecting\x7d" m.disconnecting ++
  touched "tcp_runtime_connections_total\x7bstate=disposed\x7d" m.disposed ++
  (m.active.map fun n => ("tcp_runtime_active_connections", n)).toList ++
  touched "tcp_runtime_handshake_failures_total" m.handshakeFailures ++
  touched "tcp_runtime_connection_errors_total" m.connectionErrors ++
  touched "tcp_runtime_sni_resolutions_total\x7bmatch=exact\x7d" m.exactMatches ++
  touched "tcp_runtime_sni_resolutions_total\x7bmatch=wildcard\x7d" m.wildcardMatches ++
  touched "tcp_runtime_sni_resolutions_total\x7bmatch=default\x7d" m.defaultMatches

end Metrics

end StreamHost
