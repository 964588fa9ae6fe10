import StreamHost.Address.Endpoint
import StreamHost.Files
import StreamHost.Stream.Poll

/-!
The network that servers and clients share: connected pairs of sockets, and listeners with the clients
that they have not accepted yet. A socket holds what the other end has sent; nothing limits how much that
may be. Domain sockets have their files, unless their name begins with a null or is empty: then they have
none. No internet address can be reached from here, but any can be listened on.
-/

namespace StreamHost

/-- How sockets are made. -/
inductive Transport where
  /-- With everything that the platform has. -/
  | native
  /-- With internet sockets only. -/
  | portable
  deriving DecidableEq, Repr

namespace Transport

def ofNative (preferNative : Bool) : Transport := if preferNative then native else portable

def shape : Transport → String
  | native => "Native"
  | portable => "Portable"

/-- The failure of a transport without domain sockets. -/
def noDomainSockets (t : Transport) : IoError :=
  .custom .unsupported (t.shape ++ " transport does not support domain sockets")

end Transport

namespace Network

/-- One end of a connected pair. -/
structure Socket where
  /-- The number of the other end. -/
  peer : Nat
  /-- The path of its own file, if it has one. -/
  path : Option String := none
  /-- What came in and is not read yet. -/
  inbox : Bytes := []
  /-- Whether this end sends no more. -/
  shut : Bool := false
  /-- Whether the other end sends no more. -/
  ended : Bool := false
  /-- Whether the other end is gone. -/
  peerGone : Bool := false
  /-- Whether the other end went away without having read everything, and nobody knows yet. -/
  wasReset : Bool := false
  deriving DecidableEq, Repr

/-- A bound address and the ends of the clients that wait there. -/
structure Listening where
  address : Address.Endpoint
  waiting : List Nat := []
  isOpen : Bool := true
  deriving DecidableEq, Repr

end Network

structure Network where
  files : Files := {}
  sockets : List Network.Socket := []
  listeners : List Network.Listening := []
  /-- How often anything moved. -/
  moves : Nat := 0

namespace Network

open StreamHost.Stream (Medium Turn Poll)

/-- Counts a move. -/
def moved (n : Network) : Network := { n with moves := n.moves + 1 }

def modifySocket (n : Network) (id : Nat) (f : Socket → Socket) : Network :=
  { n with sockets := n.sockets.modify id f }

def modifyListener (n : Network) (id : Nat) (f : Listening → Listening) : Network :=
  { n with listeners := n.listeners.modify id f }

/-! ## Traffic -/

/-- Takes what is there. A socket whose other end is gone or sends no more gives the end. -/
def read (n : Network) (id room : Nat) : Network × Poll Bytes :=
  match n.sockets[id]? with
  | none => (n, .fail (.bare .notConnected))
  | some s =>
    if room = 0 then (n, .done [])
    else if s.inbox ≠ [] then
      ((n.modifySocket id fun s => { s with inbox := s.inbox.drop room }).moved,
        .done (s.inbox.take room))
    else if s.wasReset then
      ((n.modifySocket id fun s => { s with wasReset := false }).moved, .fail (.os .connectionReset))
    else if s.ended then (n, .done [])
    else (n, .pending)

/-- Sends everything, unless nobody can receive it. -/
def write (n : Network) (id : Nat) (bytes : Bytes) : Network × Poll Nat :=
  match n.sockets[id]? with
  | none => (n, .fail (.bare .notConnected))
  | some s =>
    if s.peerGone || s.shut then (n, .fail (.os .brokenPipe))
    else
      ((n.modifySocket s.peer fun p => { p with inbox := p.inbox ++ bytes }).moved,
        .done bytes.length)

/-- Sends no more. -/
def shutdown (n : Network) (id : Nat) : Network :=
  match n.sockets[id]? with
  | none => n
  | some s =>
    ((n.modifySocket id fun s => { s with shut := true }).modifySocket s.peer fun p =>
      { p with ended := true }).moved

/-- Gives an end up. The other end learns of it, and also whether anything was left unread. -/
def close (n : Network) (id : Nat) (unread : Bool := false) : Network :=
  match n.sockets[id]? with
  | none => n
  | some s =>
    let wasReset := unread || s.inbox ≠ []
    (n.modifySocket s.peer fun p =>
      { p with ended := true, peerGone := true, wasReset := p.wasReset || wasReset }).moved

/-- The sockets of a network as a medium. -/
def medium : Medium (Network × Nat) where
  read s room := let (n, p) := s.1.read s.2 room; ⟨(n, s.2), [], p⟩
  write s bytes := let (n, p) := s.1.write s.2 bytes; ⟨(n, s.2), [], p⟩
  flush s := ⟨s, [], .done ()⟩
  shutdown s := ⟨(s.1.shutdown s.2, s.2), [], .done ()⟩

/-! ## Listening and connecting -/

/-- The longest path that a domain socket can have, and one more. -/
def pathLimit : Nat := 108

/-- Whether a name stands for itself and not for a file: it begins with a null. -/
def isAbstract (path : String) : Bool := path.startsWith "\x00"

/-- Why a path cannot be one of a domain socket at all. -/
def pathProblem? (path : String) : Option IoError :=
  if isAbstract path then
    if pathLimit < path.utf8ByteSize then
      some (.fixed .invalidInput "abstract socket name must be shorter than SUN_LEN")
    else none
  else if path.toList.contains '\x00' then
    some (.fixed .invalidInput "paths must not contain interior null bytes")
  else if pathLimit ≤ path.utf8ByteSize then
    some (.fixed .invalidInput "path must be shorter than SUN_LEN")
  else none

/-- The address that a host means. -/
def resolve (host : String) : Except IoError Address.Ip :=
  match Address.Ip.parse? (if host = "localhost" then "127.0.0.1" else host) with
  | some ip => .ok ip
  | none => .error (.custom .uncategorized
      "failed to lookup address information: Name or service not known")

/-- The first port that is not for everybody. -/
def firstFreePort : UInt16 := 1024

/-- The first of the ports that are given to those who ask for any. -/
def firstAnyPort : Nat := 40000

/-- A new listener. -/
def listen (n : Network) (address : Address.Endpoint) : Network × Nat :=
  let l : Listening := { address }
  ({ n with listeners := n.listeners ++ [l] }.moved, n.listeners.length)

/-- The open listener with a name. -/
def listenerAt? (n : Network) (path : String) : Option Nat :=
  n.listeners.findIdx? fun l => l.isOpen && l.address == .unix (some path)

/-- Binds a target. -/
def bind (n : Network) (t : Transport) : Address.Target → Except IoError (Network × Nat)
  | .inet host port => do
    let ip ← resolve host
    if port = 0 then
      return n.listen (.inet (.ofIp ip (firstAnyPort + n.listeners.length).toUInt16))
    else if port < firstFreePort then throw (.os .accessDenied)
    else
      let address : Address.Endpoint := .inet (.ofIp ip port)
      if n.listeners.any fun l => l.isOpen && l.address == address then throw (.os .addressInUse)
      else return n.listen address
  | .unix path => do
    if t = .portable then throw t.noDomainSockets
    if let some e := pathProblem? path then throw e
    if path = "" then return n.listen (.unix (some path))
    else if isAbstract path then
      if (n.listenerAt? path).isSome then throw (.os .addressInUse)
      else return n.listen (.unix (some path))
    else
      match n.files.bindSocket path n.listeners.length with
      | .error e => throw (.os e)
      | .ok files => return { n with files }.listen (.unix (some path))

/-- Gives a listener up: the clients that wait are cut off, and the file of a domain socket goes. -/
def unbind (n : Network) (id : Nat) : Network :=
  match n.listeners[id]? with
  | none => n
  | some l =>
    if l.isOpen then
      let n := l.waiting.foldl (fun n s => n.close s true) n
      let n := n.modifyListener id fun l => { l with waiting := [], isOpen := false }
      let files :=
        match l.address with
        | .unix (some path) => (n.files.remove path).toOption.getD n.files
        | _ => n.files
      { n with files }.moved
    else n

/-- The address of a listener. -/
def addressOf (n : Network) (listener : Nat) : Address.Endpoint :=
  ((n.listeners[listener]?).map fun l => l.address).getD (.unix none)

/-- The address of the other end of a domain socket. -/
def peerOf (n : Network) (id : Nat) : Address.Endpoint :=
  .unix ((n.sockets[id]?).bind fun s => (n.sockets[s.peer]?).bind fun p => p.path)

/-- A pair of sockets, of which one goes to those who wait at a listener. -/
def pair (n : Network) (listener : Nat) (path : Option String) : Network × Nat :=
  let id := n.sockets.length
  let near : Socket := { peer := id + 1, path := path.filter fun p => !isAbstract p }
  let far : Socket := { peer := id }
  let n := { n with sockets := n.sockets ++ [near, far] }
  ((n.modifyListener listener fun l => { l with waiting := l.waiting ++ [id + 1] }).moved, id)

/-- Makes the file of a socket that does not listen. -/
def bindFile (n : Network) (t : Transport) (path : String) : Except IoError Network := do
  let (n, l) ← n.bind t (.unix path)
  return n.modifyListener l fun l => { l with isOpen := false }

/-- Connects to a target, perhaps from a path of its own. -/
def connect (n : Network) (t : Transport) (target : Address.Target) (source : Option String := none) :
    Except IoError (Network × Nat) := do
  let n ← match source with
    | some path => n.bindFile t path
    | none => pure n
  match target with
  | .inet host _ => do
    let _ ← resolve host
    throw (.os .networkUnreachable)
  | .unix path => do
    if t = .portable then throw t.noDomainSockets
    if let some e := pathProblem? path then throw e
    if path = "" then throw (.os .invalidArgument)
    else if isAbstract path then
      match n.listenerAt? path with
      | some l => return n.pair l source
      | none => throw (.os .connectionRefused)
    else
      match n.files.find path with
      | .error e => throw (.os e)
      | .ok (.socket l) =>
        if (n.listeners[l]?).any Listening.isOpen then return n.pair l source
        else throw (.os .connectionRefused)
      | .ok _ => throw (.os .connectionRefused)

/-- Accepts the client that has waited longest. -/
def accept (n : Network) (listener : Nat) : Option (Network × Nat) :=
  match n.listeners[listener]? with
  | some { waiting := s :: rest, isOpen := true, .. } =>
    some ((n.modifyListener listener fun l => { l with waiting := rest }).moved, s)
  | _ => none

theorem read_le (n : Network) (id room : Nat) (bytes : Bytes)
    (h : (n.read id room).2 = .ready (.ok bytes)) : bytes.length ≤ room := by
  unfold read at h
  split at h
  · simp [Poll.fail] at h
  · repeat' split at h
    all_goals simp only [Poll.done, Poll.fail, Poll.ready.injEq, Except.ok.injEq, reduceCtorEq] at h
    all_goals subst h; simp; try omega

theorem write_le (n : Network) (id : Nat) (bytes : Bytes) (k : Nat)
    (h : (n.write id bytes).2 = .ready (.ok k)) : k ≤ bytes.length := by
  unfold write at h
  split at h
  · simp [Poll.fail] at h
  · split at h
    · simp [Poll.fail] at h
    · simp only [Poll.done, Poll.ready.injEq, Except.ok.injEq] at h
      omega

theorem medium_lawful : medium.Lawful :=
  ⟨fun s room bytes h => read_le s.1 s.2 room bytes h, fun s bytes n h => write_le s.1 s.2 bytes n h⟩

end Network

end StreamHost
