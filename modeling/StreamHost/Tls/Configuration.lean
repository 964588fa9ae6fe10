import StreamHost.Error
import StreamHost.Tls.Certificate
import StreamHost.Tls.Flavor
import StreamHost.Tls.PrivateKey
import StreamHost.Tls.Suite

/-!
Configurations of the server side of TLS. A configuration is built from a request, which may be refused
for one of the reasons in `Refusal`; the first reason in the order of the checks is the one that counts.
A built configuration can be given another flavor, which changes the offered protocols unless the
request named them.
-/

namespace StreamHost.Tls

/-- What a handshake agreed on: a `HandshakeInfo`. -/
structure Session where
  hostname : Option String := none
  alpn : Option Bytes := none
  version : Option Version := none
  suite : Option Suite := none
  peerCertificates : List Bytes := []
  deriving DecidableEq, Repr, Inhabited

/-- What was agreed on, with a hyphen for what was not. -/
def Session.text (s : Session) : String :=
  s.hostname.getD "-" ++ " alpn=" ++ (s.alpn.map Bytes.hex).getD "-" ++
    " version=" ++ (s.version.map Version.name).getD "-" ++
    " cipher=" ++ (s.suite.map Suite.name).getD "-"

/-- What a configuration is built from: a `TlsConfigurationBuilder`. -/
structure Request where
  chain : List Bytes
  key : PrivateKey
  /-- Suites by name, best first; none means all. -/
  suiteNames : List String := []
  /-- Allowed versions; none means all. -/
  versions : List Version := []
  /-- Offered protocols; absent means those of the flavor. -/
  alpn : Option (List Bytes) := none
  flavor : Flavor := .none
  timeout : Duration := Duration.ofSecs 10
  /-- The name of the hook that is told of each finished handshake. -/
  hook : Option String := none

/-- Why a configuration cannot be built. -/
inductive Refusal where
  | emptyChain
  | zeroTimeout
  | unknownSuite (name : String)
  | noUsableSuite
  | unreadableKey
  | unreadableCertificate (flaw : Certificate.Flaw)
  | keyMismatch
  deriving DecidableEq, Repr

namespace Refusal

def message : Refusal → String
  | emptyChain => "certificate chain is empty"
  | zeroTimeout => "handshake timeout must be greater than zero"
  | unknownSuite name => "unknown cipher suite '" ++ name ++ "'"
  | noUsableSuite =>
    "invalid protocol/cipher combination: unexpected error: no usable cipher suites configured"
  | unreadableKey =>
    "invalid certificate or key: unexpected error: " ++
      "failed to parse private key as RSA, ECDSA, or EdDSA"
  | unreadableCertificate flaw => "invalid certificate or key: invalid peer certificate: " ++ flaw.name
  | keyMismatch => "invalid certificate or key: keys may not be consistent: KeyMismatch"

def toError (r : Refusal) : Error := .configuration r.message

end Refusal

/-- A configuration of the server side: a `TlsConfiguration`. -/
structure Configuration where
  chain : List Bytes
  /-- The first certificate of the chain. -/
  certificate : Bytes
  /-- The public half of its key, which the certificate states. -/
  publicKey : PublicKey
  suites : List Suite
  versions : List Version
  alpn : List Bytes
  /-- Whether the request named the protocols. -/
  explicitAlpn : Bool
  flavor : Flavor
  timeout : Duration
  hook : Option String
  deriving DecidableEq, Repr

namespace Configuration

/-- `resolve_cipher_suites`: the suites that names stand for, in order; fails at the first unknown one. -/
def resolveSuites : List String → Except Refusal (List Suite)
  | [] => .ok []
  | name :: names =>
    match Suite.ofName? name with
    | none => .error (.unknownSuite name)
    | some s => (s :: ·) <$> resolveSuites names

/-- `resolve_protocol_versions`: all versions stand in for none. -/
def resolveVersions : List Version → List Version
  | [] => [.v13, .v12]
  | vs => vs

/-- The public half of a key that belongs to a certificate. -/
def matchKey (certificate : Bytes) (key : PrivateKey) : Except Refusal PublicKey :=
  match key.publicKey? with
  | none => .error .unreadableKey
  | some k =>
    match Certificate.ofDer certificate with
    | .error flaw => .error (.unreadableCertificate flaw)
    | .ok c => if c.keyInfo = k.subjectInfo then .ok k else .error .keyMismatch

/-- `TlsConfigurationBuilder::build`: the configuration that a request asks for. -/
def build (r : Request) : Except Refusal Configuration :=
  match r.chain with
  | [] => .error .emptyChain
  | certificate :: _ =>
    if r.timeout.nanos = 0 then .error .zeroTimeout
    else do
      let named ← resolveSuites r.suiteNames
      let suites := if r.suiteNames.isEmpty then Suite.preferred else named
      let versions := resolveVersions r.versions
      if suites.any fun s => versions.contains s.version then
        let publicKey ← matchKey certificate r.key
        return {
          chain := r.chain
          certificate
          publicKey
          suites
          versions
          alpn := r.alpn.getD r.flavor.alpn
          explicitAlpn := r.alpn.isSome
          flavor := r.flavor
          timeout := r.timeout
          hook := r.hook }
      else .error .noUsableSuite

/-- `with_flavor`: the configuration with another flavor. Protocols that the request named stay. -/
def withFlavor (c : Configuration) (f : Flavor) : Configuration :=
  { c with flavor := f, alpn := if c.explicitAlpn then c.alpn else f.alpn }

def shape (c : Configuration) : String :=
  Shape.record "TlsConfiguration"
    [("flavor", c.flavor.shape), ("alpn", Shape.list (c.alpn.map Shape.bytes)),
      ("handshake_timeout", c.timeout.text), ("on_handshake", Shape.bool c.hook.isSome)]

theorem withFlavor_withFlavor (c : Configuration) (f g : Flavor) :
    (c.withFlavor f).withFlavor g = c.withFlavor g := by
  cases h : c.explicitAlpn <;> simp [withFlavor, h]

end Configuration

end StreamHost.Tls
