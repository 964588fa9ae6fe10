import StreamHost.Duration

/-!
Alarms: when a limit ends that starts at some instant. Instants count nanoseconds; the clock that wakes
sleepers goes in steps of `Alarm.tick`.
-/

namespace StreamHost

/-- When a limit of a wait ends. -/
structure Alarm where
  instant : Nat
  deriving DecidableEq, Repr

namespace Alarm

/-- The steps of the clock that wakes sleepers, in nanoseconds: one millisecond. -/
def tick : Nat := 1000000

/-- The last instant that the clock can express, in nanoseconds. -/
def lastInstant : Nat := 9223372036854775807 * 1000000000 + 999999999

/-- Stands in for a limit that the clock cannot express: thirty years. -/
def farFuture : Nat := 30 * 365 * 86400 * 1000000000

/-- The alarm for a limit that starts now. -/
def after (now : Nat) (limit : Duration) : Alarm :=
  if now + limit.nanos ≤ lastInstant then ⟨now + limit.nanos⟩ else ⟨now + farFuture⟩

/-- The tick at which the alarm goes off: the first one not before its instant. -/
def due (a : Alarm) : Nat := (a.instant + (tick - 1)) / tick

/-- Whether the alarm has gone off. -/
def isOver (a : Alarm) (now : Nat) : Bool := decide (a.due ≤ now / tick)

/-- An alarm never goes off before its instant. -/
theorem instant_le_of_isOver {a : Alarm} {now : Nat} (elapsed : a.isOver now = true) : a.instant ≤ now := by
  have reached : a.due ≤ now / tick := of_decide_eq_true elapsed
  simp only [due, tick] at reached
  omega

end Alarm

end StreamHost
