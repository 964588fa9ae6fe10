import StreamHost.Config.Schema
import StreamHost.Pem.Load
import StreamHost.Tls.Registry

/-!
The registry of TLS configurations that settings describe: the section's own certificate is the
default, and each entry adds one for its domain pattern. All share the other settings of the section.
-/

namespace StreamHost.Config

/-- The configuration for a certificate and key. -/
def configuration (files : Files) (t : Tls) (certPath keyPath : String) :
    Except Error StreamHost.Tls.Configuration := do
  let (chain, key) ← Pem.loadPair files certPath keyPath
  match StreamHost.Tls.Configuration.build {
    chain, key
    suiteNames := t.cipherSuites
    versions := t.protocolVersions
    alpn := t.alpn.map fun ps => ps.map Bytes.ofText
    flavor := t.flavor
    timeout := Duration.ofMillis t.handshakeTimeoutMs } with
  | .ok c => return c
  | .error r => throw r.toError

/-- Adds the configurations of entries in their order. -/
def addEntries (files : Files) (t : Tls) (b : Names.RegistryBuilder StreamHost.Tls.Configuration) :
    List SniEntry → Except Error (Names.RegistryBuilder StreamHost.Tls.Configuration)
  | [] => .ok b
  | e :: rest => do
    let c ← configuration files t e.certPath e.keyPath
    match b.add e.domain c with
    | .ok b => addEntries files t b rest
    | .error err => throw err.toError

/-- `build_registry`: the registry that a TLS section describes. -/
def buildRegistry (files : Files) (t : Tls) : Except Error StreamHost.Tls.Registry := do
  let c ← configuration files t t.certPath t.keyPath
  let b := (({} : Names.RegistryBuilder StreamHost.Tls.Configuration)).setDefault c
  StreamHost.Tls.Registry.ofBuilder (← addEntries files t b t.sni)

end StreamHost.Config
