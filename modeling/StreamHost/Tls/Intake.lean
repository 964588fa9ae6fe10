import StreamHost.Tls.Handshake
import StreamHost.Tls.Protection

/-!
What comes in: bytes, cut into records, opened where they are protected, and joined into messages of the
handshake where they are parts of such. `Intake.next` gives what comes next. A message of the handshake may
lie over several records, but nothing else may lie between them.
-/

namespace StreamHost.Tls

/-- What comes next. -/
inductive Incoming where
  | message (code : UInt8) (body : Bytes)
  | content (kind : ContentKind) (bytes : Bytes)
  deriving DecidableEq, Repr

structure Intake where
  /-- Bytes that are not yet a whole record. -/
  input : Bytes := []
  /-- Bytes of handshake messages that were not given out yet. -/
  fragment : Bytes := []
  /-- How many bytes the records took that the fragment came in. -/
  held : Nat := 0
  /-- The key that opens what comes in, once it is protected. -/
  key : Option Key := none
  /-- Whether a protected record was opened. -/
  opened : Bool := false
  /-- How many bytes that the key does not open are still passed over. -/
  tolerance : Option Nat := none
  /-- How many records without content came one after the other. -/
  empties : Nat := 0
  deriving DecidableEq, Repr

namespace Intake

/-- How much a handshake message may make a side keep. -/
def capacity : Nat := 0xffff

/-- How much is kept. -/
def size (i : Intake) : Nat := i.held + i.input.length

/-- Whether a message is not whole yet, although no more can be kept. -/
def isFull (i : Intake) : Bool := !i.fragment.isEmpty && decide (capacity ≤ i.size)

/-- How much there is room for in one step. -/
def room (i : Intake) (step : Nat) : Nat :=
  if i.fragment.isEmpty then step else min step (capacity - i.size)

/-- How many records without content may come one after the other. -/
def emptiesLimit : Nat := 32

/-- Whether a record may come unprotected although protection has begun. Changes of cipher always do; while
nothing was opened yet, alerts may in version 1.3. -/
def mayBePlain (i : Intake) (modern : Bool) (kind : ContentKind) (content : Bytes) : Bool :=
  i.fragment.isEmpty && (kind == .changeCipherSpec ||
    (kind == .alert && modern && !i.opened && decide (content.length ≤ 2)))

/-- Opens a record. What the key does not open is passed over, as long as it may be. -/
def openRecord (i : Intake) (modern : Bool) (kind : ContentKind) (content : Bytes) :
    Except Failure (Intake × Option (ContentKind × Bytes)) :=
  match i.key with
  | none => .ok (i, some (kind, content))
  | some k =>
    if i.mayBePlain modern kind content then .ok (i, some (kind, content))
    else
      match k.unprotect? kind content with
      | some r => .ok ({ i with key := some k.next, opened := true }, some r)
      | none =>
        if i.tolerance.any (content.length ≤ ·) then
          .ok ({ i with tolerance := i.tolerance.map (· - content.length) }, none)
        else .error ⟨.unreadable, some .badRecordMac⟩

/-- Handshake bytes join those that were not given out yet; they came in a record of so many bytes. -/
def join (i : Intake) (content : Bytes) (size : Nat) : Except Failure Intake :=
  let fragment := i.fragment ++ content
  if Handshake.hasLong fragment then .error (Failure.corrupt .longMessage).unannounced
  else
    let ready := match Handshake.cut fragment with
      | .whole .. => true
      | .more => false
    .ok { i with
      fragment, held := i.held + size, tolerance := if ready then none else i.tolerance }

/-- What comes next, if it is there; `room` bounds the records. In version 1.3 (`modern`) some alerts may come
unprotected. -/
def nextWithin : (room : Nat) → (modern : Bool) → Intake → Except Failure (Intake × Option Incoming)
  | 0, _, i => .ok (i, none)
  | room + 1, modern, i =>
    match Handshake.cut i.fragment with
    | .whole code body rest =>
      .ok ({ i with fragment := rest, held := rest.length }, some (.message code body))
    | .more =>
      match Record.cut i.input with
      | .more => .ok (i, none)
      | .malformed how => .error (.corrupt how)
      | .whole kind content input =>
        let size := i.input.length - input.length
        match { i with input }.openRecord modern kind content with
        | .error f => .error f
        | .ok (i, none) => nextWithin room modern i
        | .ok (i, some (kind, content)) =>
          if i.fragment ≠ [] ∧ kind ≠ .handshake then
            .error (.silent "MessageInterleavedWithHandshakeMessage")
          else if content = [] ∧ i.empties = emptiesLimit then .error (.silent "TooManyEmptyFragments")
          else
            let i := { i with empties := if content = [] then i.empties + 1 else 0 }
            if kind = .handshake then do nextWithin room modern (← i.join content size)
            else .ok (i, some (.content kind content))

/-- What comes next, if it is there. -/
def next (i : Intake) (modern : Bool) : Except Failure (Intake × Option Incoming) :=
  nextWithin (i.input.length + 1) modern i

/-- Bytes that came in. -/
def feed (i : Intake) (bytes : Bytes) : Intake := { i with input := i.input ++ bytes }

/-- Whether no message has begun that is not whole. -/
def isAligned (i : Intake) : Bool := Handshake.isAligned i.fragment

end Intake

end StreamHost.Tls
