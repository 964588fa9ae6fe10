import StreamHost.Host
import StreamHost.Pem.Load
import StreamHost.Program.Options
import StreamHost.Program.Outcome

/-!
The probing program: it connects to a server, and either shows the session or sends a message and prints
the reply.
-/

namespace StreamHost.Program.Probe

/-! ## Command line -/

inductive Task where
  /-- Shows the session. -/
  | session
  /-- Sends a message and prints the reply. -/
  | send (message : String)
  deriving DecidableEq, Repr

structure Settings where
  host : String := "127.0.0.1"
  port : UInt16 := 7000
  unix : Option String := none
  tls : Bool := false
  serverName : Option String := none
  ca : Option String := none
  insecure : Bool := false
  timeoutMs : Nat := 5000
  deriving DecidableEq, Repr

def switches : List (Switch Settings) := [
  { letter := some 'H', long := "host", value := some "HOST", help := "[default: 127.0.0.1]"
    set := fun v s => some { s with host := v } },
  { letter := some 'p', long := "port", value := some "PORT", help := "[default: 7000]"
    set := fun v s => (Value.port? v).map fun p => { s with port := p } },
  { long := "unix", value := some "UNIX"
    help := "Connect to a filesystem socket instead of host/port"
    set := fun v s => (Value.path? v).map fun p => { s with unix := some p } },
  { long := "tls", help := "Use TLS (requires --ca or --insecure)"
    set := fun _ s => some { s with tls := true } },
  { long := "server-name", value := some "SERVER_NAME", help := "Server name sent as SNI"
    set := fun v s => some { s with serverName := some v } },
  { long := "ca", value := some "CA", help := "PEM file with trusted CA certificates"
    set := fun v s => (Value.path? v).map fun p => { s with ca := some p } },
  { long := "insecure", help := "Accept any server certificate"
    set := fun _ s => some { s with insecure := true } },
  { long := "timeout-ms", value := some "TIMEOUT_MS", help := "[default: 5000]"
    set := fun v s => (Value.word64? v).map fun n => { s with timeoutMs := n } }]

def aboutSession : String := "Print the negotiated session"
def aboutSend : String := "Send a message, half-close and print the reply"

def aboutHelp : String := "Print this message or the help of the given subcommand(s)"

def help : List String :=
  Help.text "Connect to a tcp-runtime server and inspect the session" "tcp-probe [OPTIONS] <COMMAND>"
    [("session", aboutSession), ("send", aboutSend), ("help", aboutHelp)] [] switches

def sessionHelp : List String :=
  Help.text aboutSession "tcp-probe session" [] [] ([] : List (Switch Unit))

def sendHelp : List String :=
  Help.text aboutSend "tcp-probe send <MESSAGE>" [] [("<MESSAGE>", "")] ([] : List (Switch Unit))

/-- The help of the help command, which knows no options. -/
def helpHelp : List String :=
  [aboutHelp, "", "Usage: tcp-probe help [COMMAND]..."] ++
    Help.section_ "Arguments" [("[COMMAND]...", "Print help for the subcommand(s)")]

/-- What comes of a command line. -/
inductive Request where
  | help (lines : List String)
  | misuse
  | run (s : Settings) (t : Task)

/-- The operands behind a command that has no options. -/
def operandsWithin : (room : Nat) → List String → Except Refusal (List String)
  | 0, _ => .ok []
  | room + 1, ws =>
    match Reading.words ([] : List (Switch Unit)) { settings := () } ws with
    | .error r => .error r
    | .ok ((), .nothing) => .ok []
    | .ok ((), .escaped rest) => .ok rest
    | .ok ((), .operand w rest) => (w :: ·) <$> operandsWithin room rest

/-- The operands behind a command that has no options. -/
def operands (ws : List String) : Except Refusal (List String) := operandsWithin (ws.length + 1) ws

/-- Reads a command line: options, then a task. -/
def Request.read (words : List String) : Request :=
  match Reading.words switches { settings := {} } words with
  | .error .help => .help Probe.help
  | .ok (s, .operand "session" rest) =>
    match operands rest with
    | .error .help => .help sessionHelp
    | .ok [] => .run s .session
    | _ => .misuse
  | .ok (s, .operand "send" rest) =>
    match operands rest with
    | .error .help => .help sendHelp
    | .ok [message] => .run s (.send message)
    | _ => .misuse
  | .ok (_, .operand "help" []) => .help Probe.help
  | .ok (_, .operand "help" ["session"]) => .help sessionHelp
  | .ok (_, .operand "help" ["send"]) => .help sendHelp
  | .ok (_, .operand "help" ["help"]) => .help helpHelp
  | _ => .misuse

/-! ## Connecting -/

/-- How the connection is secured. Trusted certificates go before trusting everybody. -/
def Settings.security (files : Files) (s : Settings) :
    Except Failure (Option Client.Security) :=
  if s.tls || s.ca.isSome || s.insecure then
    match s.ca with
    | some path =>
      match Pem.loadRoots files path with
      | .error e => .error (.runtime e)
      | .ok roots => .ok (some { serverName := s.serverName, trusted := some roots })
    | none =>
      if s.insecure then .ok (some { serverName := s.serverName })
      else .error (.complaint "--tls needs --ca or --insecure")
  else .ok none

/-- Where the program connects: to a domain socket if one is given, else to a host and port. -/
def Settings.remote (s : Settings) : Address.Options :=
  match s.unix with
  | some path => { unixPath := some path }
  | none => { host := some s.host, port := some s.port }

def Settings.timeout (s : Settings) : Duration := .ofMillis s.timeoutMs

/-- The name of the client. -/
def client : String := "probe"

/-- Connects, or waits as long as the limit allows. -/
def dial (h : Host) (s : Settings) (security : Option Client.Security) : Except Error Host :=
  let b : Client.Blueprint := { remote := s.remote, security }
  let h := h.connect client b s.timeout
  let h := if (h.channel? client).isSome then h else h.awaitClient client s.timeout
  match h.client? client with
  | some (.dialing _ (.connected _)) => .ok h
  | some (.dialing _ (.failed e)) => .error e
  | _ => .error (.timeout "connect" s.timeout)

/-! ## Tasks -/

/-- The session, line by line. -/
def sessionLines (h : Host) : List String :=
  match h.channel? client with
  | none => []
  | some c =>
    let ends := match h.shared.hub.lifecycle? c.id with
      | some l => [l.identity.localEnd.text, l.identity.remoteEnd.text]
      | none => []
    let field (label value : String) := label ++ value
    List.zipWith field ["local:    ", "remote:   "] ends ++
      match c.session with
      | none => ["tls:      none"]
      | some s => [
        field "sni:      " (s.hostname.getD "-"),
        field "protocol: " ((s.version.map Tls.Version.name).getD "-"),
        field "cipher:   " ((s.suite.map Tls.Suite.name).getD "-"),
        field "alpn:     " ((s.alpn.map Text.decodeLossy).getD "-"),
        field "certs:    " (toString s.peerCertificates.length)]

/-- Sends a message, ends its half, and reads the reply. -/
def sendMessage (h : Host) (s : Settings) (message : String) : Except Failure Bytes :=
  let bytes := Bytes.ofText message
  let t := (Host.medium client).write h bytes
  match if bytes.isEmpty then .ready (.ok 0) else t.poll with
  | .ready (.error e) => .error (.io e)
  | _ =>
    let u := (Host.medium client).shutdown t.state
    match u.poll with
    | .ready (.error e) => .error (.io e)
    | _ =>
      match (u.state.readAll client s.timeout).2 with
      | none => .error .elapsed
      | some (.error e) => .error (.io e)
      | some (.ok reply) => .ok reply

/-- The lines of a text. A carriage return before the end of a line belongs to the end. -/
def splitLines (text : String) : List String :=
  (Text.pieces '\n' text.toList).map fun cs =>
    String.ofList (if cs.getLast? = some '\r' then cs.dropLast else cs)

/-! ## The whole run -/

/-- What a run shows. -/
structure Run where
  exit : Nat := Exit.success
  printed : List String := []
  failure : Option Failure := none

/-- A task on a host. -/
def perform (h : Host) (s : Settings) (t : Task) : Except Failure (List String) := do
  let security ← s.security h.shared.network.files
  match dial h s security with
  | .error e => throw (.runtime e)
  | .ok h =>
    match t with
    | .session => return sessionLines h
    | .send message =>
      let reply ← sendMessage h s message
      return splitLines (Text.decodeLossy reply)

/-- A run of the program. -/
def run (h : Host) (words : List String) : Run :=
  match Request.read words with
  | .help lines => { printed := lines }
  | .misuse => { exit := Exit.misuse }
  | .run s t =>
    match perform h s t with
    | .ok lines => { printed := lines }
    | .error f => { exit := Exit.failure, failure := some f }

end StreamHost.Program.Probe
