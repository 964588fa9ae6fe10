import StreamHost.Network
import StreamHost.Places

/-!
Listeners: a bound address together with the places for the connections that come in there.
-/

namespace StreamHost

structure Listener where
  /-- Its number in the network. -/
  number : Nat
  localEnd : Address.Endpoint
  places : Places

namespace Listener

/-- What comes of `Listener::bind`, by what the network says. Without an answer the program has ended: it
asked for more places than there can be. -/
def ofBound (target : Address.Target) (limit : Nat) :
    Except IoError (Network × Nat) → Option (Except Error (Network × Listener))
  | .error e => some (.error (.bind target.text e))
  | .ok (n, number) =>
    (Places.ofLimit? limit).map fun places =>
      .ok (n, { number, localEnd := n.addressOf number, places })

/-- Binds a target. -/
def bind (n : Network) (t : Transport) (target : Address.Target) (limit : Nat) :
    Option (Except Error (Network × Listener)) :=
  ofBound target limit (n.bind t target)

/-- `Listener::accept` takes a place and accepts a client, if there are both. -/
def accept? (n : Network) (l : Listener) : Option (Network × Listener × Nat) := do
  let places ← l.places.take?
  let (n, socket) ← n.accept l.number
  return (n, { l with places }, socket)

/-- A connection is over: its socket is closed and its place is free. -/
def release (n : Network) (l : Listener) (socket : Nat) : Network × Listener :=
  (n.close socket, { l with places := l.places.give })

end Listener

end StreamHost
