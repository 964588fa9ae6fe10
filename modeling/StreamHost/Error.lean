import StreamHost.Duration
import StreamHost.IoError

/-!
What can go wrong in the runtime, by cause. `Error.isConfiguration` marks the causes that lie with the
caller and not with the network.
-/

namespace StreamHost

inductive Error where
  /-- A setting that cannot be honoured. -/
  | configuration (reason : String)
  /-- A listener could not be bound. -/
  | bind (target : String) (source : IoError)
  /-- An operation did not finish in time. -/
  | timeout (operation : String) (limit : Duration)
  /-- A timeout is too long for the clock. -/
  | arithmetic (limit : Duration)
  /-- A TLS session could not be set up. -/
  | handshake (reason : String)
  | io (source : IoError)
  deriving DecidableEq, Repr

namespace Error

/-- What a reader is told. -/
def message : Error → String
  | configuration reason => "configuration error: " ++ reason
  | bind target source => "failed to bind " ++ target ++ ": " ++ source.message
  | timeout operation limit => operation ++ " timed out after " ++ limit.text
  | arithmetic limit => "timeout " ++ limit.text ++ " overflows the deadline clock"
  | handshake reason => "TLS handshake failed: " ++ reason
  | io source => source.message

/-- The causes that lie in what the caller asked for. -/
def isConfiguration : Error → Bool
  | configuration _ => true
  | arithmetic _ => true
  | _ => false

/-- The failure behind a failure. -/
def source? : Error → Option IoError
  | bind _ source => some source
  | _ => none

/-- The structured form. -/
def shape : Error → String
  | configuration reason => Shape.wrap "Configuration" (Shape.text reason)
  | bind target source =>
    Shape.record "Bind" [("target", Shape.text target), ("source", source.shape)]
  | timeout operation limit =>
    Shape.record "Timeout" [("operation", Shape.text operation), ("timeout", limit.text)]
  | arithmetic limit => Shape.wrap "Arithmetic" limit.text
  | handshake reason => Shape.wrap "Handshake" (Shape.text reason)
  | io source => Shape.wrap "Io" source.shape

theorem isConfiguration_iff {e : Error} :
    e.isConfiguration = true ↔ (∃ r, e = .configuration r) ∨ ∃ d, e = .arithmetic d := by
  cases e <;> simp [isConfiguration]

end Error

end StreamHost
