import StreamHost.Crypto.Sha512
import StreamHost.Tls.Record
import StreamHost.Tls.Suite

/-!
Protected records. Each carries a mark made from the secret of the session, its place among the records and
its content, so that only a side that knows the secret can send one; in version 1.3 it also hides its kind.
Confidentiality plays no part in what a handshake agrees on, so the content itself stays readable here.
`unprotect?_protect` says that a key opens what an equal key protected.
-/

namespace StreamHost.Tls

/-- What is mixed into a secret for a use. -/
inductive Purpose where
  | clientRecords | serverRecords | clientProof | serverProof
  deriving DecidableEq, Repr

def Purpose.code : Purpose → UInt8
  | clientRecords => 0
  | serverRecords => 1
  | clientProof => 2
  | serverProof => 3

/-- The secret of a session. -/
structure Secret where
  bytes : Bytes
  deriving DecidableEq, Repr

namespace Secret

/-- The secret that follows from what the sides agreed on and from what each of them drew. -/
def derive (agreed clientDrawn serverDrawn : Bytes) : Secret :=
  ⟨Crypto.Sha512.digest (agreed ++ clientDrawn ++ serverDrawn)⟩

/-- The secret for one use. -/
def forPurpose (s : Secret) (p : Purpose) : Bytes := Crypto.Sha512.digest (p.code :: s.bytes)

/-- The proof of a side that it knows the secret, at the end of a handshake. -/
def proof (s : Secret) (p : Purpose) (suite : Suite) : Bytes :=
  (s.forPurpose p).take suite.proofSize

end Secret

/-- A key for the records of one direction. -/
structure Key where
  suite : Suite
  secret : Bytes
  /-- How many records were protected or opened with it. -/
  count : Nat := 0
  deriving DecidableEq, Repr

namespace Key

def ofSecret (s : Secret) (p : Purpose) (suite : Suite) : Key := ⟨suite, s.forPurpose p, 0⟩

/-- The key for the record after the next one. -/
def next (k : Key) : Key := { k with count := k.count + 1 }

/-- Whether records hide their kind. -/
def isModern (k : Key) : Bool := k.suite.version == .v13

/-- The bytes of a mark. -/
def markSize : Nat := 16

/-- The mark of the next record. -/
def mark (k : Key) (kind : ContentKind) (content : Bytes) : Bytes :=
  (Crypto.Sha512.digest (k.secret ++ Bytes.ofNat 8 k.count ++ kind.code :: content)).take markSize

/-- What stands before the content in version 1.2, if the cipher needs it. -/
def nonceSize : Suite → Nat
  | .v13 _ | .ecdsa .chacha20 | .rsa .chacha20 => 0
  | _ => 8

/-- The kind that a protected record shows. -/
def shownKind (k : Key) (kind : ContentKind) : ContentKind :=
  if k.isModern then .applicationData else kind

/-- What a protected record holds. -/
def protect (k : Key) (kind : ContentKind) (content : Bytes) : Bytes :=
  List.replicate (nonceSize k.suite) 0 ++ content ++
    (if k.isModern then [kind.code] else []) ++ k.mark kind content

/-- Whether bytes are content with its mark. -/
def check? (k : Key) (kind : ContentKind) (content mark : Bytes) : Option (ContentKind × Bytes) :=
  if mark = k.mark kind content then some (kind, content) else none

/-- The kind and the content of a protected record that shows a kind, if the mark is right. -/
def unprotect? (k : Key) (shown : ContentKind) (held : Bytes) : Option (ContentKind × Bytes) := do
  let (_, held) ← Wire.take? (nonceSize k.suite) held
  let inner := held.take (held.length - markSize)
  let mark := held.drop (held.length - markSize)
  if k.isModern then
    if shown ≠ .applicationData then none
    else k.check? (← ContentKind.ofCode? (← inner.getLast?)) inner.dropLast mark
  else k.check? shown inner mark

theorem length_mark (k : Key) (kind : ContentKind) (content : Bytes) :
    (k.mark kind content).length = markSize := by
  simp [mark, markSize, Crypto.Sha512.length_digest]

theorem unprotect?_protect (k : Key) (kind : ContentKind) (content : Bytes) :
    k.unprotect? (k.shownKind kind) (k.protect kind content) = some (kind, content) := by
  have hn := Wire.take?_append (List.replicate (nonceSize k.suite) 0)
    (content ++ ((if k.isModern then [kind.code] else []) ++ k.mark kind content))
  rw [List.length_replicate] at hn
  have hm := k.length_mark kind content
  unfold unprotect? protect
  simp only [List.append_assoc, hn, Option.bind_eq_bind, Option.bind_some]
  cases h : k.isModern
  · simp [shownKind, h, hm, check?]
  · have length : (content ++ kind.code :: k.mark kind content).length - markSize =
        (content ++ [kind.code]).length := by
      simp [hm]; omega
    have tail : content ++ kind.code :: k.mark kind content =
        (content ++ [kind.code]) ++ k.mark kind content := by simp
    simp only [shownKind, h, if_true, List.singleton_append, length]
    rw [tail, List.take_left, List.drop_left]
    simp [check?, Record.ofCode?_code]

end Key

end StreamHost.Tls
