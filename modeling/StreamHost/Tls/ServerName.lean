import StreamHost.Address.Ip
import StreamHost.Bytes
import StreamHost.Text.Split

/-!
The name of a server as a client asks for it: a host name or an internet address. A host name is made of
labels between dots, perhaps with a dot at the end; a label has at most 63 letters, digits, underscores
and hyphens, with no hyphen at either end, and the last label is not a number.
-/

namespace StreamHost.Tls

inductive ServerName where
  | host (name : String)
  | address (ip : Address.Ip)
  deriving DecidableEq, Repr

namespace ServerName

/-- The characters of labels. -/
def isLabelChar (c : Char) : Bool := c.isAlphanum || c == '_' || c == '-'

/-- A part of a host name between two dots. -/
def isLabel (cs : List Char) : Bool :=
  !cs.isEmpty && decide (cs.length ≤ 63) && cs.all isLabelChar &&
    cs.head? != some '-' && cs.getLast? != some '-'

/-- A host name without the dot that may stand at its end. -/
def withoutFinalDot (cs : List Char) : List Char :=
  if cs.getLast? = some '.' then cs.dropLast else cs

/-- Whether a text is a host name. -/
def isHostName (cs : List Char) : Bool :=
  let labels := Text.pieces '.' (withoutFinalDot cs)
  decide (cs.length ≤ 253) && labels.all isLabel &&
    labels.getLast?.any fun l => !l.all Char.isDigit

/-- The server that a text names. -/
def parse? (s : String) : Option ServerName :=
  if isHostName s.toList then some (.host s) else (Address.Ip.parse? s).map .address

/-- The name that a client tells the server: a host name without the final dot, and no address. -/
def indicated? : ServerName → Option String
  | host name => some (String.ofList (withoutFinalDot name.toList))
  | address _ => none

/-- The name as a reader is told it. -/
def text : ServerName → String
  | host name => name
  | address ip => ip.text

/-- The bytes of an address. -/
def addressBytes : Address.Ip → Bytes
  | .v4 ip => [ip.a, ip.b, ip.c, ip.d]
  | .v6 ip => ip.groups.toList.flatMap fun (g : UInt16) => [(g >>> 8).toUInt8, g.toUInt8]

/-- Whether a name in a certificate, which may begin with `*.`, covers a host name. A star stands for
one label. -/
def covers (pattern name : List Char) : Bool :=
  match pattern with
  | '*' :: '.' :: parent => (name.dropWhile (· != '.')).drop 1 == parent && name.head? != some '.'
  | _ => pattern == name

/-- The form in which host names are compared. -/
def folded (cs : List Char) : List Char := (withoutFinalDot cs).map Char.toLower

end ServerName

end StreamHost.Tls
