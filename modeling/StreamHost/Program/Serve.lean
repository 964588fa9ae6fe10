import StreamHost.Host
import StreamHost.Program.Narration
import StreamHost.Program.Options
import StreamHost.Program.Outcome

/-!
The serving program: an echo server whose settings come from a file, with a few of them overridden on the
command line. It runs until a signal stops it, then lets its connections finish. Between start and stop it
answers requests; each is a connection over a domain socket that sends its bytes, ends its half, and reads
to the end.

What it writes to the log is told in full, and `Run.lines` are the lines that pass the filter.
-/

namespace StreamHost.Program.Serve

open Log (Line)

/-! ## Command line -/

structure Arguments where
  config : Option String := none
  port : Option UInt16 := none
  wiretap : Bool := false
  deriving DecidableEq, Repr

def switches : List (Switch Arguments) := [
  { letter := some 'c', long := "config", value := some "CONFIG"
    help := "Path to a TOML configuration file"
    set := fun v a => (Value.path? v).map fun p => { a with config := some p } },
  { letter := some 'p', long := "port", value := some "PORT"
    help := "Override the listener port"
    set := fun v a => (Value.port? v).map fun p => { a with port := some p } },
  { long := "wiretap"
    help := "Log all traffic (visible with RUST_LOG=tcp_runtime::wiretap=trace)"
    set := fun _ a => some { a with wiretap := true } }]

def help : List String :=
  Help.text "Echo server with SNI-based TLS and graceful shutdown" "tcp-runtime [OPTIONS]" [] []
    switches

/-- Reads a command line, which has options only. -/
def Arguments.read (words : List String) : Except Refusal Arguments :=
  match Reading.words switches { settings := {} } words with
  | .error r => .error r
  | .ok (a, .nothing) | .ok (a, .escaped []) => .ok a
  | .ok _ => .error .misuse

/-! ## Settings -/

/-- What the program finds around it. -/
structure Surroundings where
  files : Files := {}
  /-- A log filter that goes before the one in the settings. -/
  filter : Option String := none

/-- The command line overrides settings. -/
def Arguments.override (a : Arguments) (c : Config.Server) : Config.Server :=
  { c with
    listener := { c.listener with port := a.port.orElse fun _ => c.listener.port }
    observability := { c.observability with wiretap := c.observability.wiretap || a.wiretap } }

/-- The settings of a run. They are checked again after the command line has changed them. -/
def settings (files : Files) (a : Arguments) : Except Config.LoadError Config.Server := do
  let c ← match a.config with
    | some path => Config.load files path
    | none => pure {}
  let c := a.override c
  match Config.validate c with
  | .ok () => return c
  | .error vs => throw (.invalid vs)

/-- The filter of a run. One that cannot be read does not count. -/
def filter (s : Surroundings) (c : Config.Server) : Log.Filter :=
  match s.filter.map Log.Filter.parseDirectives with
  | some (.ok f) => f
  | _ => (Log.Filter.parse c.observability.logLevel).toOption.getD ⟨[]⟩

/-! ## Start -/

/-- Listens for those who ask for the metrics. -/
def openMetrics (n : Network) (o : Config.Observability) : Except Error Network :=
  if o.metricsEnabled then
    match Address.SocketAddress.parse? o.metricsAddress with
    | none => .error (.configuration "invalid socket address syntax")
    | some a =>
      match n.bind .native (.ofEndpoint (.inet a)) with
      | .ok (n, _) => .ok n
      | .error e =>
        .error (.configuration ("metrics exporter: failed to create HTTP listener: " ++ e.message))
  else .ok n

/-- The server of a run. The log listens before all other observers. -/
def blueprint (files : Files) (c : Config.Server) : Except Error Server.Blueprint := do
  let b ← Server.Blueprint.ofConfig files c
  return { b with
    handler := .echo
    pipeline := { b.pipeline with observers := Narration.observer :: b.pipeline.observers } }

/-- Why a start fails. -/
inductive Stop where
  | failed (e : Error)
  /-- The server asked for more places than there can be. -/
  | aborted

/-- Starts the server: the lines up to the end of the start, and the host or what went wrong. -/
def start (files : Files) (c : Config.Server) : List Line × Except Stop Host :=
  let ls := [Narration.starting, Narration.configured]
  match openMetrics { files } c.observability with
  | .error e => (ls, .error (.failed e))
  | .ok network =>
    let ls := ls ++ if c.observability.metricsEnabled then [Narration.exporting] else []
    let ls := ls ++ (c.tls.map (Narration.registryLines files)).getD []
    match blueprint files c with
    | .error e => (ls, .error (.failed e))
    | .ok b =>
      match ({ shared := { network } } : Host).bind b c.listener.bindTimeout with
      | none => (ls ++ [Narration.bound], .error .aborted)
      | some (.error e) => (ls, .error (.failed e))
      | some (.ok h) => (ls ++ [Narration.bound, Narration.started, Narration.listening], .ok h)

/-! ## Requests and stop -/

/-- The name of the client that makes requests. -/
def client : String := "request"

/-- One request: the host after it, and the reply. -/
def exchange (socket : String) (h : Host) (request : Bytes) : Host × Bytes :=
  match h.connectBare client (.unix socket) with
  | .error _ => (h, [])
  | .ok h =>
    let h := ((Host.medium client).write h request).state
    let h := ((Host.medium client).shutdown h).state
    let (h, reply) := h.readAll client ⟨0⟩
    (h.dropClient client, match reply with | some (.ok bytes) => bytes | _ => [])

/-- Requests one after the other. -/
def exchanges (socket : String) (h : Host) (requests : List Bytes) : Host × List Bytes :=
  requests.foldl (fun acc request =>
    let (h, reply) := exchange socket acc.1 request
    (h, acc.2 ++ [reply])) (h, [])

/-- Whether the file that goes with the listener cannot be removed. -/
def cannotRemove (h : Host) : Bool :=
  match h.running with
  | none => false
  | some r =>
    match r.server.localEnd with
    | .unix (some path) => !(h.shared.network.files.remove path).toBool
    | _ => false

/-- Stops the server: the host after it, and the lines. -/
def stop (h : Host) (signal : String) (limit : Duration) : Host × List Line :=
  let kept := if cannotRemove h then [Narration.fileNotRemoved] else []
  let h := (h.operate (.dispose h.shared.now limit)).advance limit
  let ok := match h.running.bind fun r => r.server.disposal with
    | some (.ok ()) => true
    | _ => false
  (h, [Narration.signalled signal, Narration.disposing, Narration.loopStopped] ++
    (if ok then [] else [Narration.closeRequested, Narration.drainTimedOut]) ++ kept ++
    [Narration.released, Narration.disposed] ++ [if ok then Narration.complete else Narration.incomplete])

/-! ## The whole run -/

/-- What a run shows. -/
structure Run where
  exit : Nat := Exit.success
  /-- What is printed apart from the log. -/
  printed : List String := []
  failure : Option Failure := none
  format : Config.LogFormat := .pretty
  /-- The lines of the log that pass the filter. -/
  lines : List Line := []
  /-- Whether the server came up. -/
  isUp : Bool := false
  replies : List Bytes := []
  /-- The files that are left. -/
  files : Files

/-- The settings are there, and the program runs. -/
def serve (s : Surroundings) (c : Config.Server) (socket signal : String) (requests : List Bytes) :
    Run :=
  let pass := (filter s c).passing
  let format := c.observability.logFormat
  match start s.files c with
  | (ls, .error (.failed e)) =>
    { exit := Exit.failure, failure := some (.runtime e), format, lines := pass ls, files := s.files }
  | (ls, .error .aborted) =>
    let files := match c.listener.unixPath with
      | some path => (s.files.bindSocket path 0).toOption.getD s.files
      | none => s.files
    { exit := Exit.abort, format, lines := pass ls, files }
  | (ls, .ok h) =>
    let (h, replies) := exchanges socket h requests
    let (h, last) := stop h signal c.shutdown.drainTimeout
    { format
      lines := pass (ls ++ h.shared.hub.events.flatMap Narration.ofEvent ++ last)
      isUp := true
      replies
      files := h.shared.network.files }

/-- A run of the program. Requests go to the domain socket at `socket`, and `signal` names the signal that
ends it. -/
def run (s : Surroundings) (words : List String) (socket signal : String) (requests : List Bytes) :
    Run :=
  match Arguments.read words with
  | .error .help => { printed := help, files := s.files }
  | .error .misuse => { exit := Exit.misuse, files := s.files }
  | .ok a =>
    match settings s.files a with
    | .error e => { exit := Exit.failure, failure := some (.settings e), files := s.files }
    | .ok c => serve s c socket signal requests

end StreamHost.Program.Serve
