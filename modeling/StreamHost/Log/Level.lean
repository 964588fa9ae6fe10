/-!
Severities of log lines, and the limits that a filter sets on them.
-/

namespace StreamHost.Log

/-- The severity of a line, the gravest first. -/
inductive Level where
  | error | warn | info | debug | trace
  deriving DecidableEq, Repr

namespace Level

def name : Level → String
  | error => "ERROR"
  | warn => "WARN"
  | info => "INFO"
  | debug => "DEBUG"
  | trace => "TRACE"

/-- The number of a level, counted from 1. -/
def rank : Level → Nat
  | error => 1
  | warn => 2
  | info => 3
  | debug => 4
  | trace => 5

end Level

/-- The least grave level that passes, or nothing at all. -/
abbrev Limit := Option Level

namespace Limit

def ofRank? : Nat → Option Limit
  | 0 => some none
  | 1 => some (some .error)
  | 2 => some (some .warn)
  | 3 => some (some .info)
  | 4 => some (some .debug)
  | 5 => some (some .trace)
  | _ => none

/-- Whether a level passes. -/
def admits (limit : Limit) (l : Level) : Bool :=
  match limit with
  | none => false
  | some most => l.rank ≤ most.rank

/-- A number with an optional plus sign. -/
def number? (cs : List Char) : Option Nat :=
  let ds := match cs with | '+' :: ds => ds | ds => ds
  if !ds.isEmpty && ds.all Char.isDigit then
    let n := ds.foldl (fun n c => n * 10 + (c.toNat - '0'.toNat)) 0
    if n < UInt64.size then some n else none
  else none

/-- The limit that a text names: a level in any case, `off`, or a number up to 5. -/
def parse? (s : String) : Option Limit :=
  match (number? s.toList).bind ofRank? with
  | some l => some l
  | none =>
    match s.toList.map Char.toLower with
    | ['o', 'f', 'f'] => some none
    | ['e', 'r', 'r', 'o', 'r'] => some (some .error)
    | ['w', 'a', 'r', 'n'] => some (some .warn)
    | ['i', 'n', 'f', 'o'] => some (some .info)
    | ['d', 'e', 'b', 'u', 'g'] => some (some .debug)
    | ['t', 'r', 'a', 'c', 'e'] => some (some .trace)
    | [] => some (some .error)
    | _ => none

end Limit

end StreamHost.Log
