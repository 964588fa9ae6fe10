import StreamHost.Text.Quoted
import StreamHost.Text.Utf8
import StreamHost.Tls.Der
import StreamHost.Tls.ServerName

/-!
The names that a certificate is made out for, and when one of them covers the name that a client asks for.
A host name may begin with a star, which stands for one label. An authority may be bound to some names: these
are stated as names too, where a host name stands for everything below it, and an address comes with a mask.
-/

namespace StreamHost.Tls

inductive SubjectName where
  | host (name : Bytes)
  | address (ip : Bytes)
  | directory
  | locator (text : Bytes)
  /-- A name of a kind that is not judged, by its number. -/
  | other (kind : UInt8)
  deriving DecidableEq, Repr

namespace SubjectName

def hostTag : UInt8 := 0x82
def addressTag : UInt8 := 0x87

/-- The kinds of names that are not judged, by their tags. -/
def otherTags : List UInt8 := [0xa0, 0x81, 0xa3, 0xa5, 0x88]

/-- The name in a tagged value. -/
def ofValue? (v : Der.Value) : Option SubjectName :=
  if v.tag = hostTag then some (host v.content)
  else if v.tag = addressTag then some (address v.content)
  else if v.tag = 0xa4 then some directory
  else if v.tag = 0x86 then some (locator v.content)
  else if otherTags.contains v.tag then some (other (v.tag &&& 0x5f))
  else none

/-- The name at the front, and what follows it. -/
def next? (bs : Bytes) : Option (SubjectName × Bytes) := do
  let (v, rest) ← Der.next? bs
  return (← ofValue? v, rest)

/-- A list of names: those up to the first one that is not readable, and whether that is all of them. -/
structure Listing where
  names : List SubjectName := []
  isWhole : Bool := true
  deriving DecidableEq, Repr

/-- The names that a reader finds in some bytes; `room` bounds their number. -/
def readUpTo (next? : Bytes → Option (SubjectName × Bytes)) : (room : Nat) → Bytes → Listing
  | _, [] => {}
  | 0, _ => { isWhole := false }
  | room + 1, bs =>
    match next? bs with
    | none => { isWhole := false }
    | some (n, rest) =>
      let l := readUpTo next? room rest
      { l with names := n :: l.names }

/-- The names in some bytes. -/
def readAll (bs : Bytes) : Listing := readUpTo next? bs.length bs

/-- The bound at the front, which is a name in a sequence, and what follows it. -/
def nextBound? (bs : Bytes) : Option (SubjectName × Bytes) := do
  let (content, rest) ← Der.take? Der.sequenceTag bs
  match ← next? content with
  | (n, []) => some (n, rest)
  | _ => none

/-- The bounds in some bytes. -/
def readBounds (bs : Bytes) : Listing := readUpTo nextBound? bs.length bs

/-! ## Wording -/

/-- The bytes of an address as a reader is told them. -/
def addressText (ip : Bytes) : String :=
  let hexText (b : UInt8) : String := Bytes.hex [b]
  let group (a b : UInt8) : String := if a = 0 ∧ b = 0 then "0" else hexText a ++ hexText b
  match ip with
  | [_, _, _, _] => ".".intercalate (ip.map fun b => toString b.toNat)
  | [a, b, c, d, e, f, g, h, i, j, k, l, m, n, o, p] =>
    ":".intercalate [group a b, group c d, group e f, group g h, group i j, group k l, group m n, group o p]
  | _ => "[invalid: " ++ ", ".intercalate (ip.map hexText) ++ "]"

/-- A name as a reader is told it. -/
def text : SubjectName → String
  | host name => "DnsName(\"" ++ Text.decodeLossy name ++ "\")"
  | address ip => "IpAddress(" ++ addressText ip ++ ")"
  | directory => "DirectoryName"
  | locator s => "UniformResourceIdentifier(\"" ++ Text.decodeLossy s ++ "\")"
  | other kind => "Unsupported(0x" ++ Bytes.hex [kind] ++ ")"

/-! ## Covering -/

/-- The characters of a host name, in the form in which names are compared. -/
def characters (name : Bytes) : List Char := name.map fun b => (Char.ofNat b.toNat).toLower

/-- Whether text is labels between dots of which the last one is no number. -/
def areLabels (cs : List Char) : Bool :=
  let labels := StreamHost.Text.pieces '.' cs
  labels.all ServerName.isLabel && labels.getLast?.any fun l => !l.all Char.isDigit

/-- Whether a certificate may state a host name. Behind a star there are at least two labels. -/
def isStated (cs : List Char) : Bool :=
  decide (cs.length ≤ 253) &&
    match cs with
    | '*' :: '.' :: rest => areLabels rest && decide (2 ≤ (StreamHost.Text.pieces '.' rest).length)
    | _ => areLabels cs

/-- Whether a stated host name and another one are the same, where a star stands for one label. -/
def matchesLabels : (stated name : List Char) → Bool
  | '*' :: rest, _ :: name => rest == name.dropWhile (· != '.')
  | stated, name => stated == name

/-- Whether a name covers the server that a client asks for. -/
def covers (server : ServerName) : SubjectName → Bool
  | host name =>
    match server with
    | .host asked =>
      isStated (characters name) && matchesLabels (characters name) (ServerName.folded asked.toList)
    | .address _ => false
  | address ip =>
    match server with
    | .host _ => false
    | .address asked => ip == ServerName.addressBytes asked
  | _ => false

/-! ## Bounds -/

/-- Why a name cannot be compared with a bound. -/
inductive Misfit where
  /-- A host name that may not be stated. -/
  | hostName
  /-- A bound that is no host name. -/
  | bound
  /-- A mask that is none. -/
  | mask
  /-- An address of no known size. -/
  | address
  /-- A name of a kind that is not judged, although there is a bound for this kind. -/
  | kind
  deriving DecidableEq, Repr

/-- Whether text may bound host names. It may begin with a dot. -/
def isBound : List Char → Bool
  | [] => true
  | '.' :: cs => decide (cs.length < 253) && areLabels cs
  | cs => decide (cs.length ≤ 253) && areLabels cs

/-- Whether a host name lies within a bound. -/
def hostWithin (name bound : List Char) : Bool :=
  let more := name.length - bound.length
  if more = 0 then matchesLabels name bound
  else if bound = [] then true
  else (bound.head? == some '.' || (name.drop (more - 1)).head? == some '.') && name.drop more == bound

/-- Whether a byte is some ones with zeros behind them. -/
def isMaskByte (b : UInt8) : Bool := [0x00, 0x80, 0xc0, 0xe0, 0xf0, 0xf8, 0xfc, 0xfe, 0xff].contains b

/-- Whether an address lies within a bound; `open_` tells that the mask may still have ones. The mask is only
judged as far as the address lies within. -/
def addressWithin : (open_ : Bool) → (ip bound mask : Bytes) → Except Misfit Bool
  | open_, i :: is, b :: bs, m :: ms =>
    if !isMaskByte m || (!open_ && m != 0) then .error .mask
    else if (i ^^^ b) &&& m != 0 then .ok false
    else addressWithin (open_ && m == 0xff) is bs ms
  | _, _, _, _ => .ok true

/-- Whether a name lies within a bound of its kind; absent for a bound of another kind. Every name of a
directory lies where `directories` says. -/
def within? (directories : Bool) (name bound : SubjectName) : Option (Except Misfit Bool) :=
  match name, bound with
  | host n, host b =>
    some (if !isStated (characters n) then .error .hostName
      else if !isBound (characters b) then .error .bound
      else .ok (hostWithin (characters n) (characters b)))
  | directory, directory => some (.ok directories)
  | address ip, address b =>
    some (if ip.length ≠ 4 ∧ ip.length ≠ 16 then .error .address
      else if b.length = 2 * ip.length then addressWithin true ip (b.take ip.length) (b.drop ip.length)
      else if b.length = 8 ∨ b.length = 32 then .ok false
      else .error .mask)
  | locator _, locator _ => some (.error .kind)
  | other a, other b => if a = b then some (.error .kind) else none
  | _, _ => none

end SubjectName

end StreamHost.Tls
