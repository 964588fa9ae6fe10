import StreamHost.Config.Decode

/-!
Settings as values of the settings format. Every field that is set is written, in the order of its
declaration, so that `Server.layout.decode` reads the same settings back.
-/

namespace StreamHost.Config

open Toml (Value)

namespace Encoder

/-- A table with a header. -/
def table (entries : List (String × Value)) : Value := .table .header entries

def natural (n : Nat) : Value := .integer n

def texts (ss : List String) : Value := .array .inline (ss.map .string)

/-- An entry that is left out when it is not set. -/
def optional (key : String) (v : Option Value) : List (String × Value) := (v.map fun v => (key, v)).toList

end Encoder

open Encoder

def Listener.toValue (l : Listener) : Value :=
  table (optional "host" (l.host.map .string) ++
    optional "port" (l.port.map fun p => natural p.toNat) ++
    optional "unix_path" (l.unixPath.map .string) ++
    [("native_transport", .boolean l.native), ("bind_timeout_ms", natural l.bindTimeoutMs),
      ("max_connections", natural l.maxConnections)])

def SniEntry.toValue (e : SniEntry) : Value :=
  table [("domain", .string e.domain), ("cert_path", .string e.certPath),
    ("key_path", .string e.keyPath)]

/-- The name of a version in settings. -/
def versionName : StreamHost.Tls.Version → String
  | .v12 => "1.2"
  | .v13 => "1.3"

def Tls.toValue (t : Tls) : Value :=
  table ([("cert_path", .string t.certPath), ("key_path", .string t.keyPath),
      ("cipher_suites", texts t.cipherSuites),
      ("protocol_versions", texts (t.protocolVersions.map versionName))] ++
    optional "alpn" (t.alpn.map texts) ++
    [("flavor", .string t.flavor.name), ("handshake_timeout_ms", natural t.handshakeTimeoutMs),
      ("sni", .array .inline (t.sni.map SniEntry.toValue))])

def Shutdown.toValue (s : Shutdown) : Value :=
  table [("track_connections", .boolean s.trackConnections),
    ("drain_timeout_ms", natural s.drainTimeoutMs)]

def Observability.toValue (o : Observability) : Value :=
  table [("log_level", .string o.logLevel), ("log_format", .string o.logFormat.name),
    ("wiretap", .boolean o.wiretap), ("metrics_enabled", .boolean o.metricsEnabled),
    ("metrics_address", .string o.metricsAddress)]

def Server.toValue (c : Server) : Value :=
  table ([("listener", c.listener.toValue)] ++ optional "tls" (c.tls.map Tls.toValue) ++
    [("shutdown", c.shutdown.toValue), ("observability", c.observability.toValue)])

end StreamHost.Config
