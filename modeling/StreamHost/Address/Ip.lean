import StreamHost.Address.Number

/-!
Internet addresses and their texts. A version 4 address is four octets between dots. A version 6
address is eight groups between colons; its canonical text writes groups without leading zeros, puts
`::` for the longest run of at least two zero groups (the first of equally long ones), and writes an
address that embeds a version 4 one with its dotted form at the end.
-/

namespace StreamHost.Address

open Text (Reader)

/-- A version 4 address. -/
structure Ipv4 where
  a : UInt8
  b : UInt8
  c : UInt8
  d : UInt8
  deriving DecidableEq, Repr

/-- A version 6 address as its eight groups. -/
structure Ipv6 where
  groups : Vector UInt16 8
  deriving DecidableEq, Repr

/-- An internet address. -/
inductive Ip where
  | v4 (ip : Ipv4)
  | v6 (ip : Ipv6)
  deriving DecidableEq, Repr

namespace Ipv4

def text (ip : Ipv4) : String :=
  ".".intercalate ([ip.a, ip.b, ip.c, ip.d].map fun o => toString o.toNat)

/-- Four octets between dots. -/
def read : Reader Ipv4 := fun cs => do
  let (a, cs) ← octetFormat.read cs
  let (b, cs) ← Reader.after '.' octetFormat.read cs
  let (c, cs) ← Reader.after '.' octetFormat.read cs
  let (d, cs) ← Reader.after '.' octetFormat.read cs
  return (⟨a.toUInt8, b.toUInt8, c.toUInt8, d.toUInt8⟩, cs)

end Ipv4

namespace Ipv6

/-- The embedded version 4 address of `::ffff:a.b.c.d`. -/
def mapped? (ip : Ipv6) : Option Ipv4 :=
  match ip.groups.toList with
  | [0, 0, 0, 0, 0, 0xffff, hi, lo] =>
    some ⟨(hi >>> 8).toUInt8, hi.toUInt8, (lo >>> 8).toUInt8, lo.toUInt8⟩
  | _ => none

/-- A stretch of groups: where it starts and how long it is. -/
structure Run where
  start : Nat
  len : Nat

/-- The longest stretch of zero groups from group `i` on; of equally long ones the first. -/
def longestZeros (i : Nat) (current best : Run) : List UInt16 → Run
  | [] => best
  | g :: gs =>
    if g = 0 then
      let current : Run := if current.len = 0 then ⟨i, 1⟩ else ⟨current.start, current.len + 1⟩
      longestZeros (i + 1) current (if best.len < current.len then current else best) gs
    else longestZeros (i + 1) ⟨0, 0⟩ best gs

/-- Groups between colons. -/
def groupsText (gs : List UInt16) : String :=
  ":".intercalate (gs.map fun g => String.ofList (Nat.toDigits 16 g.toNat))

/-- The canonical text. -/
def text (ip : Ipv6) : String :=
  match ip.mapped? with
  | some v4 => "::ffff:" ++ v4.text
  | none =>
    let gs := ip.groups.toList
    let zeros := longestZeros 0 ⟨0, 0⟩ ⟨0, 0⟩ gs
    if 1 < zeros.len then
      groupsText (gs.take zeros.start) ++ "::" ++ groupsText (gs.drop (zeros.start + zeros.len))
    else groupsText gs

/-- What stands in front of the next group: nothing before the first, else a colon. -/
def separated {α : Type} (first : Bool) (inner : Reader α) : Reader α :=
  if first then inner else Reader.after ':' inner

/-- Up to `room` groups. A dotted version 4 address may stand for the last two, and then ends the
list; the flag tells whether it did. -/
def readGroups : (room : Nat) → (first : Bool) → List Char → List UInt16 × Bool × List Char
  | 0, _, cs => ([], false, cs)
  | room + 1, first, cs =>
    match if room = 0 then none else separated first Ipv4.read cs with
    | some (ip, rest) =>
      ([ip.a.toUInt16 <<< 8 ||| ip.b.toUInt16, ip.c.toUInt16 <<< 8 ||| ip.d.toUInt16], true, rest)
    | none =>
      match separated first groupFormat.read cs with
      | some (g, rest) =>
        let (gs, dotted, rest) := readGroups room false rest
        (g.toUInt16 :: gs, dotted, rest)
      | none => ([], false, cs)

/-- Eight groups from the groups before and after `::`. -/
def ofParts (head tail : List UInt16) : Ipv6 :=
  let gs := head ++ List.replicate (8 - head.length - tail.length) 0 ++ tail
  ⟨Vector.ofFn fun i => gs.getD i.val 0⟩

/-- Eight groups, or fewer with `::` for at least one zero group. -/
def read : Reader Ipv6 := fun cs =>
  let (head, dotted, rest) := readGroups 8 true cs
  if head.length = 8 then some (ofParts head [], rest)
  else if dotted then none
  else
    match rest with
    | ':' :: ':' :: rest =>
      let (tail, _, rest) := readGroups (7 - head.length) true rest
      some (ofParts head tail, rest)
    | _ => none

end Ipv6

namespace Ip

def text : Ip → String
  | v4 ip => ip.text
  | v6 ip => ip.text

/-- A text that is an address and nothing else. -/
def parse? (s : String) : Option Ip :=
  match Ipv4.read s.toList with
  | some (ip, []) => some (.v4 ip)
  | _ =>
    match Ipv6.read s.toList with
    | some (ip, []) => some (.v6 ip)
    | _ => none

end Ip

end StreamHost.Address
