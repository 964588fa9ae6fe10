/-!
The signal that stops a server. Any number of coordinators share one signal, and any number of listeners
wait for it; a listener also stops waiting when no coordinator is left that could give it.
-/

namespace StreamHost

structure Shutdown where
  triggered : Bool := false
  /-- How many coordinators there are. -/
  coordinators : Nat := 1
  /-- How many listen. -/
  listeners : Nat := 0
  deriving DecidableEq, Repr

namespace Shutdown

/-- Gives the signal; giving it again changes nothing. -/
def trigger (s : Shutdown) : Shutdown := { s with triggered := true }

/-- One more coordinator. -/
def share (s : Shutdown) : Shutdown := { s with coordinators := s.coordinators + 1 }

/-- One coordinator less. -/
def leave (s : Shutdown) : Shutdown := { s with coordinators := s.coordinators - 1 }

/-- One more listener. -/
def subscribe (s : Shutdown) : Shutdown := { s with listeners := s.listeners + 1 }

/-- One listener less. -/
def unsubscribe (s : Shutdown) : Shutdown := { s with listeners := s.listeners - 1 }

/-- Whether a listener need not wait any longer. -/
def isOver (s : Shutdown) : Bool := s.triggered || s.coordinators == 0

end Shutdown

end StreamHost
