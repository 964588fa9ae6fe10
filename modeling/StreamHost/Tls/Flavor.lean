import StreamHost.Bytes

/-!
Flavors: what a server speaks by default, from which the protocols it offers during a handshake follow.
-/

namespace StreamHost.Tls

inductive Flavor where
  | none | tcp | http11 | h2
  deriving DecidableEq, Repr, Inhabited

namespace Flavor

/-- The name in settings. -/
def name : Flavor → String
  | none => "none"
  | tcp => "tcp"
  | http11 => "http11"
  | h2 => "h2"

/-- The flavor that a setting names. -/
def ofName? (s : String) : Option Flavor := [none, tcp, http11, h2].find? fun f => f.name == s

/-- The name in shapes. -/
def shape : Flavor → String
  | none => "None"
  | tcp => "Tcp"
  | http11 => "Http11"
  | h2 => "H2"

/-- The protocols that a flavor offers, best first. -/
def alpn : Flavor → List Bytes
  | none => []
  | tcp => []
  | http11 => [Bytes.ofText "http/1.1"]
  | h2 => [Bytes.ofText "h2", Bytes.ofText "http/1.1"]

end Flavor

end StreamHost.Tls
