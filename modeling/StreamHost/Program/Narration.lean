import StreamHost.Config.Registry
import StreamHost.Connection.Hub
import StreamHost.Log.Line
import StreamHost.Stream.Tap

/-!
What a server writes to its log. The start and the end have their lines, and in between every event of a
connection has those that belong to it.
-/

namespace StreamHost.Program.Narration

open Log (Line)

/-- The observer through which the log hears of connections. -/
def observer : Connection.Observer := { name := "log" }

/-! ## Targets -/

/-- The target of the program itself. -/
def main : String := "tcp_runtime"

/-- The target of a part of the program. -/
def part (path : String) : String := main ++ "::" ++ path

def listener : String := part "net::listener"
def connection : String := part "net::connection"
def handle : String := part "server::handle"
def negotiation : String := part "tls::sni"

/-! ## Start and end -/

def starting : Line := ⟨.info, main, "tcp-runtime starting", ["version"]⟩

def configured : Line :=
  ⟨.info, main, "Configuration loaded", ["listener", "secure", "drain_timeout_ms"]⟩

def exporting : Line :=
  ⟨.info, part "observability::metrics", "Metrics exporter listening", ["address"]⟩

/-- A certificate and its key were loaded. -/
def pairLoaded : Line :=
  ⟨.debug, part "tls::pem", "Loaded certificate and key", ["cert", "key", "chain_len"]⟩

/-- A pattern has its configuration. -/
def registered : Line :=
  ⟨.trace, part "tls::registry", "Registered TLS configuration", ["pattern"]⟩

def registryBuilt : Line :=
  ⟨.info, part "config::tls", "TLS registry built", ["domains", "flavor"]⟩

def bound : Line := ⟨.info, listener, "Listener bound", ["address", "max_connections"]⟩

def started : Line :=
  ⟨.info, part "server::builder", "Server started", ["address", "secure", "tracked"]⟩

def listening : Line := ⟨.info, main, "Listening for connections", ["address"]⟩

def signalled (name : String) : Line := ⟨.info, part "lifecycle::signals", name ++ " received", []⟩

def disposing : Line := ⟨.info, handle, "Disposing server", ["address", "tracked"]⟩

def loopStopped : Line := ⟨.debug, part "server::accept", "Accept loop stopped", ["address"]⟩

def closeRequested : Line :=
  ⟨.debug, part "net::group", "Requested close of all group connections", ["count"]⟩

def drainTimedOut : Line :=
  ⟨.warn, handle, "Drain timed out, closing remaining connections",
    ["address", "remaining", "timeout"]⟩

/-- The file of a domain socket was not there any more. -/
def fileNotRemoved : Line := ⟨.warn, listener, "Failed to remove socket file", ["path", "error"]⟩

def released : Line := ⟨.debug, listener, "Listener released", ["address"]⟩

def disposed : Line := ⟨.info, handle, "Server disposed", ["address"]⟩

def complete : Line := ⟨.info, main, "Shutdown complete", []⟩

def incomplete : Line := ⟨.warn, main, "Shutdown finished with errors", ["error"]⟩

/-- Whether the configuration for a certificate and key can be made, and the lines up to there. -/
def configurationLines (files : Files) (t : Config.Tls) (certPath keyPath : String) :
    List Line × Bool :=
  if (Pem.loadPair files certPath keyPath).toBool then
    ([pairLoaded], (Config.configuration files t certPath keyPath).toBool)
  else ([], false)

/-- The lines of entries, up to the first that fails. -/
def entryLines (files : Files) (t : Config.Tls) : List Config.SniEntry → List Line
  | [] => [registryBuilt]
  | e :: rest =>
    match configurationLines files t e.certPath e.keyPath with
    | (ls, false) => ls
    | (ls, true) =>
      if (Names.Pattern.parse e.domain).toBool then ls ++ registered :: entryLines files t rest
      else ls

/-- The lines of a registry that is built from settings, up to the first failure. -/
def registryLines (files : Files) (t : Config.Tls) : List Line :=
  match configurationLines files t t.certPath t.keyPath with
  | (ls, false) => ls
  | (ls, true) => ls ++ entryLines files t t.sni

/-! ## Connections -/

def ofNotice : Connection.Notice → List Line
  | .state s =>
    (if s = .connected then
      [⟨.debug, listener, "Connection accepted", ["peer_addr", "available_permits"]⟩] else []) ++
      [⟨.trace, connection, "Connection state changed", ["connection", "state"]⟩]
  | .error _ => [⟨.debug, connection, "Connection error", ["connection", "error"]⟩]
  | .completion _ => []

/-- The fields of a line that was not written with fields of its own. -/
def plainFields : List String := ["log.target", "log.module_path", "log.file", "log.line"]

/-- The target of what a TLS session leaves in the log. -/
def sessionTarget : Tls.Remark → String
  | .unexpectedContent .. | .unexpectedMessage .. => "rustls::check"
  | .warned _ => "rustls::common_state"
  | .addressAsName _ | .badName _ | .twoNames => "rustls::msgs::handshake"

def ofNote : Tls.Note → Line
  | .remarked r => ⟨.warn, sessionTarget r, r.text, plainFields⟩
  | .moved .. => ⟨.trace, negotiation, "Handshake progressed", ["connection", "from", "to"]⟩
  | .selected .. => ⟨.debug, negotiation, "SNI resolved", ["connection", "hostname", "matched"]⟩
  | .failedAt _ => ⟨.warn, negotiation, "TLS handshake failed", ["connection", "state", "reason"]⟩

def ofSight (s : Stream.Sight) : Line :=
  ⟨.trace, part "wiretap", s.word,
    "conn" :: (if s.bytes?.isSome then ["bytes", "data"] else []) ++
      if s.error?.isSome then ["error"] else []⟩

/-- The lines of an event. -/
def ofEvent : Connection.Event → List Line
  | .notified o _ n => if o = observer.name then ofNotice n else []
  | .attempted _ note => [ofNote note]
  | .inboundClosed _ => [⟨.debug, connection, "Inbound half closed", ["connection"]⟩]
  | .outboundClosed _ => [⟨.debug, connection, "Outbound half closed", ["connection"]⟩]
  | .stream (.tapped _ s) => [ofSight s]
  | _ => []

end StreamHost.Program.Narration
