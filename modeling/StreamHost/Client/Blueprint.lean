import StreamHost.Connection.Pipeline
import StreamHost.Deadline

/-!
Clients before they connect: where to, over which transport, with or without TLS, and what they attach to
their connections.
-/

namespace StreamHost.Client

open Connection (Hub Pipeline)

/-- How a client secures its connections: a `ClientTls`. -/
structure Security where
  /-- The name of the server, if it is not the host. -/
  serverName : Option String := none
  /-- The certificates that are trusted; absent, every certificate is accepted. -/
  trusted : Option (List Tls.Certificate) := none
  protocols : List Bytes := []
  versions : List Tls.Version := [.v13, .v12]
  suites : List Tls.Suite := Tls.Suite.preferred

namespace Security

def shape (s : Security) : String :=
  Shape.record "ClientTls"
    [("server_name", Shape.option (s.serverName.map Shape.text)),
      ("alpn", Shape.list (s.protocols.map Shape.bytes))]

/-- `ClientTls::resolve_server_name`: the server that is asked for, as it was named and as it was understood. -/
def serverNameFor (s : Security) (host : Option String) : Except Error (String × Tls.ServerName) :=
  match s.serverName.orElse fun _ => host with
  | none => .error (.configuration "TLS over a domain socket needs an explicit server name")
  | some name =>
    match Tls.ServerName.parse? name with
    | some n => .ok (name, n)
    | none =>
      .error (.configuration ("invalid server name '" ++ name ++ "': invalid dns name"))

/-- What the client brings to a handshake. -/
def terms (s : Security) (name : Tls.ServerName) : Tls.ClientTerms where
  serverName := name
  trusted := s.trusted
  protocols := s.protocols
  versions := s.versions
  suites := s.suites

end Security

/-- A `TcpClient`. -/
structure Blueprint where
  remote : Address.Options := {}
  transport : Transport := .native
  security : Option Security := none
  pipeline : Pipeline := {}
  group : Option Nat := none

namespace Blueprint

/-- The same client with a socket address to connect to. -/
def remoteAddress (b : Blueprint) (a : Address.SocketAddress) : Blueprint :=
  { b with remote := b.remote.withSocketAddress a }

/-- The host that is meant when only a port is given. -/
def defaultHost : String := "localhost"

/-- `TcpClient::target`: where the client connects. A port is needed, and a host is not. -/
def target (b : Blueprint) : Except Error Address.Target := do
  match ← b.remote.target with
  | .inet host port =>
    if port = 0 then throw (.configuration "remote port is required")
    else return .inet (if b.remote.host.isNone then defaultHost else host) port
  | t => return t

def shape (b : Blueprint) (h : Hub) : String :=
  Shape.record "TcpClient"
    [("remote", b.remote.shape), ("transport", b.transport.shape),
      ("tls", Shape.option (b.security.map Security.shape)), ("pipeline", b.pipeline.shape),
      ("group", Shape.option (b.group.map h.groupShape))]

end Blueprint

end StreamHost.Client
