import StreamHost.Tls.Alert
import StreamHost.Tls.ServerName
import StreamHost.Tls.Wire

/-!
The extensions of the opening message, and how each is read. A server knows all of those listed here, even
where it makes no use of them: one that is malformed ends the handshake. Extensions that are not listed are
passed over.
-/

namespace StreamHost.Tls

/-- An extension that is known. -/
inductive Extension where
  | serverName | status | groups | pointFormats | signatures | protocols | clientCertificateTypes
  | serverCertificateTypes | masterSecret | compressors | ticket | preshared | earlyData | versions
  | cookie | presharedModes | authorities | shares | transport | renegotiation | encryptedHello
  | outerExtensions
  deriving DecidableEq, Repr

namespace Extension

/-- The number on the wire. -/
def code : Extension → Nat
  | serverName => 0
  | status => 5
  | groups => 10
  | pointFormats => 11
  | signatures => 13
  | protocols => 16
  | clientCertificateTypes => 19
  | serverCertificateTypes => 20
  | masterSecret => 23
  | compressors => 27
  | ticket => 35
  | preshared => 41
  | earlyData => 42
  | versions => 43
  | cookie => 44
  | presharedModes => 45
  | authorities => 47
  | shares => 51
  | transport => 57
  | outerExtensions => 0xfd00
  | encryptedHello => 0xfe0d
  | renegotiation => 0xff01

def all : List Extension :=
  [serverName, status, groups, pointFormats, signatures, protocols, clientCertificateTypes,
    serverCertificateTypes, masterSecret, compressors, ticket, preshared, earlyData, versions, cookie,
    presharedModes, authorities, shares, transport, renegotiation, encryptedHello, outerExtensions]

/-- The extension with a number. -/
def ofCode? (n : Nat) : Option Extension := all.find? fun e => e.code == n

theorem mem_all (e : Extension) : e ∈ all := by cases e <;> decide

/-- Extensions as they are sent. -/
def encode (es : List (Extension × Bytes)) : Bytes :=
  Wire.sized 2 (es.flatMap fun e => Bytes.ofNat 2 e.1.code ++ Wire.sized 2 e.2)

/-- One extension: its number and its body. -/
def read? (bs : Bytes) : Option ((Nat × Bytes) × Bytes) := do
  let (type, rest) ← Wire.number? 2 bs
  let (body, rest) ← Wire.sized? 2 rest
  return ((type, body), rest)

end Extension

/-- A key that is enclosed for an exchange: the number of the group and the point. -/
structure Share where
  group : Nat
  point : Bytes
  deriving DecidableEq, Repr

/-- A share as it is sent. -/
def Share.encode (s : Share) : Bytes := Bytes.ofNat 2 s.group ++ Wire.sized 2 s.point

def Share.read? (bs : Bytes) : Option (Share × Bytes) := do
  let (group, rest) ← Wire.number? 2 bs
  let (point, rest) ← Wire.filled? 2 rest
  return (⟨group, point⟩, rest)

/-- How many earlier sessions are offered for resumption, and how many proofs come with them. -/
structure Preshared where
  identities : Nat
  proofs : Nat
  deriving DecidableEq, Repr

/-- An earlier session: its name and its age. -/
def Preshared.identity? (bs : Bytes) : Option (Bytes × Bytes) := do
  let (name, rest) ← Wire.filled? 2 bs
  let (_, rest) ← Wire.number? 4 rest
  return (name, rest)

def Preshared.read? (bs : Bytes) : Option (Preshared × Bytes) := do
  let (identities, rest) ← Wire.some? 2 Preshared.identity? bs
  let (proofs, rest) ← Wire.some? 2 (Wire.filled? 1) rest
  return (⟨identities.length, proofs.length⟩, rest)

/-- What a list of server names requests. -/
inductive NameRequest where
  | host (name : String)
  /-- An address, which does not count as a name. -/
  | address (name : Bytes)
  /-- No name, or one that is no host name. -/
  | invalid (name : Bytes)
  deriving DecidableEq, Repr

namespace NameRequest

/-- The names in a list of server names. A kind other than a host name ends the list. -/
def names : (room : Nat) → Bytes → Option (List Bytes)
  | _, [] => some []
  | 0, _ => none
  | room + 1, kind :: bs =>
    if kind = 0 then do
      let (name, rest) ← Wire.filled? 2 bs
      return name :: (← names room rest)
    else some []

/-- What one name requests. Host names count in lower case. -/
def ofName (name : Bytes) : NameRequest :=
  let cs := name.map fun b => Char.ofNat b.toNat
  match ServerName.parse? (String.ofList cs) with
  | some (.host _) => host (String.ofList (cs.map Char.toLower))
  | some (.address _) => address name
  | none => invalid name

/-- The request in a list of server names. There may be one name at most. -/
def read (body : Bytes) : Except Corruption NameRequest :=
  match (Wire.only? (Wire.sized? 2) body).bind fun inner => names inner.length inner with
  | some [] => .ok (invalid [])
  | some [name] => .ok (ofName name)
  | some _ => .error .twoNames
  | none => .error .content

/-- What the log is told of a request that cannot be met. -/
def remarks : NameRequest → List Remark
  | host _ | invalid [] => []
  | address name => [.addressAsName name]
  | invalid name => [.badName name]

end NameRequest

end StreamHost.Tls
