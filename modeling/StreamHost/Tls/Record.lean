import StreamHost.Tls.Alert
import StreamHost.Tls.Wire

/-!
Records: the frames in which TLS sends everything. A record has a kind, a version and at most
`Record.largest` bytes of content. `Record.cut` looks for one at the front of some bytes; `cut_plain` says that
a record is found as it was made.
-/

namespace StreamHost.Tls

inductive ContentKind where
  | changeCipherSpec | alert | handshake | applicationData | heartbeat
  deriving DecidableEq, Repr

namespace ContentKind

def code : ContentKind → UInt8
  | changeCipherSpec => 20
  | alert => 21
  | handshake => 22
  | applicationData => 23
  | heartbeat => 24

def name : ContentKind → String
  | changeCipherSpec => "ChangeCipherSpec"
  | alert => "Alert"
  | handshake => "Handshake"
  | applicationData => "ApplicationData"
  | heartbeat => "Heartbeat"

def ofCode? (n : UInt8) : Option ContentKind :=
  [changeCipherSpec, alert, handshake, applicationData, heartbeat].find? fun k => k.code == n

end ContentKind

namespace Record

/-- The largest content of one record. -/
def largest : Nat := 16384

/-- The least length that no record may have, protection included. -/
def limit : Nat := largest + 2048

/-- An unprotected record. -/
def plain (kind : ContentKind) (content : Bytes) : Bytes :=
  kind.code :: 3 :: 3 :: Wire.sized 2 content

/-- The result of looking for a record at the front of some bytes. -/
inductive Cut where
  /-- More bytes are needed. -/
  | more
  | malformed (how : Corruption)
  | whole (kind : ContentKind) (content rest : Bytes)

/-- Whether a record may name this version: any of the family, or one of a few older relatives. -/
def acceptsVersion (major minor : UInt8) : Bool :=
  major == 3 || [(2, 0), (0xfe, 0xff), (0xfe, 0xfd), (0xfe, 0xfc)].contains (major, minor)

/-- The content of a record of some kind, from its length on. -/
def cutContent (kind : ContentKind) (bs : Bytes) : Cut :=
  match Wire.number? 2 bs with
  | none => .more
  | some (n, rest) =>
    if n = 0 ∧ kind ≠ .applicationData then .malformed .emptyRecord
    else if limit ≤ n then .malformed .longRecord
    else
      match Wire.take? n rest with
      | none => .more
      | some (content, rest) => .whole kind content rest

/-- Looks for a record at the front. The kind and the version are judged as soon as they are there. -/
def cut : Bytes → Cut
  | [] => .more
  | k :: rest =>
    match ContentKind.ofCode? k with
    | none => .malformed .kind
    | some kind =>
      match rest with
      | major :: minor :: rest =>
        if acceptsVersion major minor then cutContent kind rest else .malformed .version
      | _ => .more

/-- Content in pieces that fit into one record; `room` bounds their number. -/
def piecesWithin : (room : Nat) → Bytes → List Bytes
  | 0, _ => []
  | _, [] => []
  | room + 1, bs => bs.take largest :: piecesWithin room (bs.drop largest)

/-- Content in pieces that fit into one record. -/
def pieces (bs : Bytes) : List Bytes := piecesWithin bs.length bs

theorem ofCode?_code (k : ContentKind) : ContentKind.ofCode? k.code = some k := by
  cases k <;> decide

/-- An unprotected record is found as it was made. -/
theorem cut_plain {kind : ContentKind} {content : Bytes} (rest : Bytes)
    (h : content.length < limit) (hk : content = [] → kind = .applicationData) :
    cut (plain kind content ++ rest) = .whole kind content rest := by
  have hl : content.length < Wire.capacity 2 := by
    have : limit < Wire.capacity 2 := by decide
    omega
  have hn : Wire.number? 2 (Wire.sized 2 content ++ rest) = some (content.length, content ++ rest) := by
    have := Wire.take?_append (Bytes.ofNat 2 content.length) (content ++ rest)
    rw [Bytes.length_ofNat] at this
    simp [Wire.number?, Wire.sized, this, Wire.toNat_ofNat hl]
  have he : ¬(content.length = 0 ∧ kind ≠ .applicationData) :=
    fun h => h.2 (hk (List.length_eq_zero_iff.1 h.1))
  have hs : ¬limit ≤ content.length := by omega
  simp only [cut, plain, ofCode?_code, acceptsVersion, cutContent, hn, List.cons_append, he, hs,
    if_false, Wire.take?_append]
  simp

end Record

end StreamHost.Tls
