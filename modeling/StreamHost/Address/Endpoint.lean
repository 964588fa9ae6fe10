import StreamHost.Address.Ip
import StreamHost.Error

/-!
Endpoints, where a connection starts or ends, and targets, where a listener is bound or a client
connects. `SocketAddress.parse?` reads the texts that `SocketAddress.text` writes (and some others);
`Options.target` turns the settings of a user into a target, and refuses settings that contradict each
other.
-/

namespace StreamHost.Address

open Text (Reader)

/-- An internet address with a port. A version 6 address has a scope, 0 for none. -/
inductive SocketAddress where
  | v4 (ip : Ipv4) (port : UInt16)
  | v6 (ip : Ipv6) (port : UInt16) (scope : UInt32)
  deriving DecidableEq, Repr

namespace SocketAddress

def ip : SocketAddress → Ip
  | v4 ip _ => .v4 ip
  | v6 ip _ _ => .v6 ip

def port : SocketAddress → UInt16
  | v4 _ p => p
  | v6 _ p _ => p

/-- An address and a port, without a scope. -/
def ofIp : Ip → UInt16 → SocketAddress
  | .v4 ip, p => v4 ip p
  | .v6 ip, p => v6 ip p 0

def text : SocketAddress → String
  | v4 ip p => ip.text ++ ":" ++ toString p.toNat
  | v6 ip p scope =>
    "[" ++ ip.text ++ (if scope = 0 then "" else "%" ++ toString scope.toNat) ++ "]:" ++
      toString p.toNat

/-- An address, a colon and a port. -/
def readV4 : Reader SocketAddress := fun cs => do
  let (ip, cs) ← Ipv4.read cs
  let (p, cs) ← Reader.after ':' portFormat.read cs
  return (v4 ip p.toUInt16, cs)

/-- An address between brackets, with an optional scope, a colon and a port. -/
def readV6 : Reader SocketAddress := fun cs => do
  let (ip, cs) ← Reader.after '[' Ipv6.read cs
  let (scope, cs) := (Reader.after '%' scopeFormat.read cs).getD (0, cs)
  let (_, cs) ← Reader.mark ']' cs
  let (p, cs) ← Reader.after ':' portFormat.read cs
  return (v6 ip p.toUInt16 scope.toUInt32, cs)

/-- A text that is a socket address and nothing else. -/
def parse? (s : String) : Option SocketAddress :=
  match (readV4 s.toList).orElse fun _ => readV6 s.toList with
  | some (a, []) => some a
  | _ => none

end SocketAddress

/-- Where a connection starts or ends. -/
inductive Endpoint where
  | inet (address : SocketAddress)
  /-- A domain socket; clients have none of their own name. -/
  | unix (path : Option String)
  deriving DecidableEq, Repr

namespace Endpoint

def inet? : Endpoint → Option SocketAddress
  | inet a => some a
  | unix _ => none

/-- The port, 0 for a domain socket. -/
def port (e : Endpoint) : UInt16 := (e.inet?.map SocketAddress.port).getD 0

def text : Endpoint → String
  | inet a => a.text
  | unix (some path) => "unix:" ++ path
  | unix none => "unix:(unnamed)"

def shape : Endpoint → String
  | inet a => Shape.wrap "Inet" a.text
  | unix path => Shape.wrap "Unix" (Shape.option (path.map Shape.path))

end Endpoint

/-- Where a listener is bound or a client connects. -/
inductive Target where
  | inet (host : String) (port : UInt16)
  | unix (path : String)
  deriving DecidableEq, Repr

namespace Target

/-- The text; a host that contains a colon stands between brackets. -/
def text : Target → String
  | inet host p =>
    (if host.toList.contains ':' then "[" ++ host ++ "]" else host) ++ ":" ++ toString p.toNat
  | unix path => "unix:" ++ path

/-- The target that names an endpoint. An unnamed domain socket has an empty path. -/
def ofEndpoint : Endpoint → Target
  | .inet a => inet a.ip.text a.port
  | .unix path => unix (path.getD "")

end Target

/-- The address settings of a user. -/
structure Options where
  host : Option String := none
  port : Option UInt16 := none
  unixPath : Option String := none
  deriving DecidableEq, Repr, Inhabited

namespace Options

/-- The host that is used when none is set: every interface. -/
def defaultHost : String := "0.0.0.0"

/-- The settings that name a socket address. -/
def ofSocketAddress (a : SocketAddress) : Options := { host := a.ip.text, port := a.port }

/-- A socket address in place of the host and the port. -/
def withSocketAddress (o : Options) (a : SocketAddress) : Options :=
  { o with host := a.ip.text, port := a.port }

/-- The settings that name an endpoint. -/
def ofEndpoint : Endpoint → Options
  | .inet a => ofSocketAddress a
  | .unix path => { unixPath := path }

/-- The target that the settings mean. A domain socket goes with neither a host nor a port, and has a
path. -/
def target (o : Options) : Except Error Target :=
  match o.unixPath with
  | some path =>
    if o.host.isSome then
      .error (.configuration ("domain socket " ++ path ++ " cannot be combined with a host"))
    else if o.port.isSome then
      .error (.configuration ("domain socket " ++ path ++ " cannot be combined with a port"))
    else if path.isEmpty then .error (.configuration "domain socket path must not be empty")
    else .ok (.unix path)
  | none => .ok (.inet (o.host.getD defaultHost) (o.port.getD 0))

def shape (o : Options) : String :=
  Shape.record "AddressOptions"
    [("host", Shape.option (o.host.map Shape.text)),
     ("port", Shape.option (o.port.map fun p => toString p.toNat)),
     ("unix_path", Shape.option (o.unixPath.map Shape.path))]

theorem target_isOk_iff {o : Options} :
    (∃ t, o.target = .ok t) ↔
      ∀ path, o.unixPath = some path → o.host = none ∧ o.port = none ∧ path ≠ "" := by
  unfold target
  cases o.unixPath with
  | none => simp
  | some path =>
    cases o.host <;> cases o.port <;> by_cases h : path = "" <;> simp_all

end Options

end StreamHost.Address
