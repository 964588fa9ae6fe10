import StreamHost.Connection.Event

/-!
The journal of what happens to connections: one line for each event that has one. A style gives the words
that depend on what the journal is about.
-/

namespace StreamHost.Connection

structure Journal.Style where
  /-- The words before a notice: who got it, and about which connection. Without words there is no
  line. -/
  subject : (observer : String) → (id : Nat) → Option String
  error : Error → String
  completion : Completion → String
  /-- Whether a hook tells if the connection is secured. -/
  tellsSecured : Bool := false

namespace Journal

/-- What a notice says. -/
def Style.notice (j : Style) : Notice → String
  | .state s => s.name
  | .error e => j.error e
  | .completion c => j.completion c

/-- What is seen of a stream. -/
def streamLine : Stream.Event → Option String
  | .took n b => some (n ++ " took " ++ b.hex)
  | .flushed n => some (n ++ " flush")
  | .shutDown n => some (n ++ " shutdown")
  | .dropped n => some (n ++ " dropped")
  | .reading l => some (l ++ " read")
  | .writing l => some (l ++ " write")
  | .tapped _ _ => none

/-- The line of an event. -/
def Style.line (j : Style) : Event → Option String
  | .notified o id n => (j.subject o id).map fun w => w ++ " " ++ j.notice n
  | .heard o _ s => some (o ++ " closure " ++ s.name)
  | .closedAll o n => some (o ++ " closed " ++ toString n)
  | .counted o n => some (o ++ " sees " ++ toString n ++ " live")
  | .wrapped stage _ => some (stage ++ " wraps")
  | .negotiated hook _ session => some ("hook:" ++ hook ++ " " ++ session.text)
  | .hooked hook _ s secured =>
    some (hook ++ " hook " ++ (s.map State.name).getD "none" ++
      if j.tellsSecured then " secured=" ++ Shape.bool secured else "")
  | .staged .. | .attempted .. | .handling _ | .inboundClosed _ | .outboundClosed _ => none
  | .released c => some ("callback:" ++ c ++ " released")
  | .stream e => streamLine e

/-- The lines of events, in order. -/
def Style.lines (j : Style) (es : List Event) : List String := es.filterMap j.line

end Journal

end StreamHost.Connection
