import StreamHost.Config.Schema
import StreamHost.Deadline
import StreamHost.Log.Filter
import StreamHost.Names.Pattern

/-!
Checks on settings beyond their form. Each rule reports its own violations, and all of them are
reported, in the order of the rules.
-/

namespace StreamHost.Config

/-- A violation and the field it is about. -/
structure Violation where
  field : String
  message : String
  deriving DecidableEq, Repr

def Violation.text (v : Violation) : String := v.field ++ ": " ++ v.message

def Violation.shape (v : Violation) : String :=
  Shape.record "ValidationError" [("field", Shape.text v.field), ("message", Shape.text v.message)]

/-- `check_timeout`: a timeout is neither zero nor too long for the clock. -/
def checkTimeout (field : String) (millis : Nat) : List Violation :=
  if millis = 0 then [⟨field, "must be greater than zero"⟩]
  else if Deadline.maxTimeout < Duration.ofMillis millis then [⟨field, "too large"⟩]
  else []

/-- The address settings name a target. -/
def checkAddress (l : Listener) : List Violation :=
  match l.addressOptions.target with
  | .ok _ => []
  | .error e => [⟨"listener", e.message⟩]

/-- At least one connection is allowed. -/
def checkMaxConnections (l : Listener) : List Violation :=
  if l.maxConnections = 0 then [⟨"listener.max_connections", "must be greater than zero"⟩] else []

/-- Protocol names are not empty. -/
def checkAlpn (t : Tls) : List Violation :=
  if t.alpn.any fun ps => ps.any String.isEmpty then
    [⟨"tls.alpn", "protocol names must not be empty"⟩]
  else []

/-- Domains are patterns, and no two entries have the same one. `index` counts the entries before. -/
def checkDomains (index : Nat) (seen : List Names.Pattern) : List SniEntry → List Violation
  | [] => []
  | e :: rest =>
    let field := "tls.sni[" ++ toString index ++ "].domain"
    match Names.Pattern.parse e.domain with
    | .error err => ⟨field, err.toError.message⟩ :: checkDomains (index + 1) seen rest
    | .ok p =>
      if seen.contains p then
        ⟨field, "duplicate pattern '" ++ p.text ++ "'"⟩ :: checkDomains (index + 1) seen rest
      else checkDomains (index + 1) (p :: seen) rest

/-- The rules of the TLS section. -/
def checkTls (t : Tls) : List Violation :=
  checkTimeout "tls.handshake_timeout_ms" t.handshakeTimeoutMs ++ checkAlpn t ++
    checkDomains 0 [] t.sni

/-- The log level is a filter. -/
def checkLogLevel (o : Observability) : List Violation :=
  match Log.Filter.parse o.logLevel with
  | .ok _ => []
  | .error e => [⟨"observability.log_level", e.toError.message⟩]

/-- The address for metrics is a socket address, if metrics are on. -/
def checkMetricsAddress (o : Observability) : List Violation :=
  if o.metricsEnabled && (Address.SocketAddress.parse? o.metricsAddress).isNone then
    [⟨"observability.metrics_address", "'" ++ o.metricsAddress ++ "' is not a socket address"⟩]
  else []

/-- All violations. -/
def violations (c : Server) : List Violation :=
  checkAddress c.listener ++ checkMaxConnections c.listener ++
    checkTimeout "listener.bind_timeout_ms" c.listener.bindTimeoutMs ++
    (c.tls.map checkTls).getD [] ++
    checkTimeout "shutdown.drain_timeout_ms" c.shutdown.drainTimeoutMs ++
    checkLogLevel c.observability ++ checkMetricsAddress c.observability

/-- `validate_config`: settings without violations pass. -/
def validate (c : Server) : Except (List Violation) Unit :=
  match violations c with
  | [] => .ok ()
  | vs => .error vs

theorem validate_eq_ok_iff {c : Server} : validate c = .ok () ↔ violations c = [] := by
  unfold validate
  split <;> simp_all

theorem checkTimeout_eq_nil_iff {field : String} {ms : Nat} :
    checkTimeout field ms = [] ↔ 0 < ms ∧ Duration.ofMillis ms ≤ Deadline.maxTimeout := by
  unfold checkTimeout
  split
  · simp_all
  · split
    · simp_all [Duration.le_def, Duration.lt_def]
    · simp_all [Duration.le_def, Duration.lt_def]
      omega

end StreamHost.Config
