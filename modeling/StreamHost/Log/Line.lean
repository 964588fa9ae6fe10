import StreamHost.Config.Schema
import StreamHost.Log.Filter
import StreamHost.Text.Json

/-!
Log lines: how grave they are, which part of the program writes them, and what they say. A filter chooses
among them.
-/

namespace StreamHost.Log

structure Line where
  level : Level
  target : String
  message : String
  /-- The names of the fields that come with the message. -/
  fields : List String := []
  deriving DecidableEq, Repr

namespace Line

/-- A line as it is written. -/
def text (l : Line) : Config.LogFormat → String
  | .pretty => l.level.name ++ " " ++ l.target ++ ": " ++ l.message
  | .json => Text.Json.object [("level", l.level.name), ("target", l.target), ("message", l.message)]

end Line

/-- The lines that a filter lets through. The message counts as a field. -/
def Filter.passing (f : Filter) (ls : List Line) : List Line :=
  ls.filter fun l => f.admits l.level l.target ("message" :: l.fields)

end StreamHost.Log
