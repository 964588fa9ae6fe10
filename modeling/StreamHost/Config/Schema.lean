import StreamHost.Address.Endpoint
import StreamHost.Tls.Flavor
import StreamHost.Tls.Suite

/-!
The settings of a server, with their defaults.
-/

namespace StreamHost.Config

/-- Where and how to listen. -/
structure Listener where
  host : Option String := none
  port : Option UInt16 := none
  unixPath : Option String := none
  native : Bool := true
  bindTimeoutMs : Nat := 5000
  maxConnections : Nat := 10000
  deriving DecidableEq, Repr, Inhabited

namespace Listener

def addressOptions (l : Listener) : Address.Options :=
  { host := l.host, port := l.port, unixPath := l.unixPath }

def bindTimeout (l : Listener) : Duration := Duration.ofMillis l.bindTimeoutMs

end Listener

/-- A certificate for one domain pattern. -/
structure SniEntry where
  domain : String := ""
  certPath : String := ""
  keyPath : String := ""
  deriving DecidableEq, Repr, Inhabited

/-- The TLS section. -/
structure Tls where
  certPath : String := ""
  keyPath : String := ""
  cipherSuites : List String := []
  protocolVersions : List StreamHost.Tls.Version := []
  alpn : Option (List String) := none
  flavor : StreamHost.Tls.Flavor := .none
  handshakeTimeoutMs : Nat := 10000
  sni : List SniEntry := []
  deriving DecidableEq, Repr, Inhabited

/-- How to stop. -/
structure Shutdown where
  trackConnections : Bool := true
  drainTimeoutMs : Nat := 30000
  deriving DecidableEq, Repr, Inhabited

def Shutdown.drainTimeout (s : Shutdown) : Duration := Duration.ofMillis s.drainTimeoutMs

/-- How log lines are laid out. -/
inductive LogFormat where
  | pretty | json
  deriving DecidableEq, Repr, Inhabited

def LogFormat.name : LogFormat → String
  | pretty => "pretty"
  | json => "json"

/-- What can be watched from outside. -/
structure Observability where
  logLevel : String := "info"
  logFormat : LogFormat := .pretty
  wiretap : Bool := false
  metricsEnabled : Bool := false
  metricsAddress : String := "0.0.0.0:9090"
  deriving DecidableEq, Repr, Inhabited

/-- All settings. -/
structure Server where
  listener : Listener := {}
  tls : Option Tls := none
  shutdown : Shutdown := {}
  observability : Observability := {}
  deriving DecidableEq, Repr, Inhabited

end StreamHost.Config
