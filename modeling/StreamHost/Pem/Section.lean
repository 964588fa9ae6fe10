import StreamHost.Pem.Base64
import StreamHost.Text.Quoted
import StreamHost.Text.Utf8

/-!
Sections of text files that hold certificates and keys. A section starts with a line
`-----BEGIN label-----` and ends with one that begins `-----END label-----`; the lines between are
Base64. A start line inside a section starts another one that keeps the lines so far. Sections with
unknown labels are skipped without a look at their lines. The first fault ends the reading.
-/

namespace StreamHost.Pem

/-- What a section holds. -/
inductive Kind where
  | certificate | publicKey | rsaPrivateKey | privateKey | ecPrivateKey | crl | request | echConfig
  deriving DecidableEq, Repr

/-- The label of a kind. -/
def Kind.label : Kind → String
  | certificate => "CERTIFICATE"
  | publicKey => "PUBLIC KEY"
  | rsaPrivateKey => "RSA PRIVATE KEY"
  | privateKey => "PRIVATE KEY"
  | ecPrivateKey => "EC PRIVATE KEY"
  | crl => "X509 CRL"
  | request => "CERTIFICATE REQUEST"
  | echConfig => "ECHCONFIG"

/-- The kind that a label names. -/
def Kind.ofLabel? (label : Bytes) : Option Kind :=
  [certificate, publicKey, rsaPrivateKey, privateKey, ecPrivateKey, crl, request, echConfig].find?
    fun k => Bytes.ofText k.label == label

/-- A decoded section. -/
structure Section where
  kind : Kind
  der : Bytes
  deriving DecidableEq, Repr

/-- The lines of a section. -/
def Section.encode (s : Section) : Bytes :=
  let line (word : String) := Bytes.ofText ("-----" ++ word ++ " " ++ s.kind.label ++ "-----\n")
  line "BEGIN" ++ Base64.encode s.der ++ Bytes.ofText "\n" ++ line "END"

inductive Failure where
  | illegalStart (line : Bytes)
  | missingEnd (label : Bytes)
  | base64 (cause : Base64.Failure)
  deriving DecidableEq, Repr

/-- How a failure is written. -/
def Failure.text : Failure → String
  | illegalStart line => "illegal section start: " ++ Text.quote (Text.decodeLossy line)
  | missingEnd label => "section end " ++ Text.quote (Text.decodeLossy label) ++ " missing"
  | base64 cause => cause.text

def lineFeed : UInt8 := 10
def carriageReturn : UInt8 := 13
def space : UInt8 := 32
def dash : UInt8 := 45

/-- The lines of a file, each with the byte that ends it: a line feed or a carriage return. -/
def lines : Bytes → List Bytes
  | [] => []
  | b :: bs =>
    if b = lineFeed ∨ b = carriageReturn then [b] :: lines bs
    else
      match lines bs with
      | [] => [[b]]
      | l :: ls => (b :: l) :: ls

def startMark : Bytes := Bytes.ofText "-----BEGIN "
def endMark : Bytes := Bytes.ofText "-----END "
def closingMark : Bytes := Bytes.ofText "-----"

/-- Takes dashes off the end of a line (given backwards), with spaces and line ends anywhere between
them. Gives the number of dashes and what stands before the first of them. -/
def closingDashes (count : Nat) (before : Bytes) : Bytes → Nat × Bytes
  | [] => (count, before)
  | b :: bs =>
    if b = dash then closingDashes (count + 1) bs bs
    else if b = space ∨ b = lineFeed ∨ b = carriageReturn then closingDashes count before bs
    else (count, before)

/-- The label of a start line, if it ends in exactly five dashes. -/
def startLabel? (line : Bytes) : Option Bytes :=
  let (count, before) := closingDashes 0 [] line.reverse
  if count = 5 then some (before.reverse.drop startMark.length) else none

/-- A section that has started: its label and its lines so far. -/
structure Open where
  label : Bytes
  body : Bytes

/-- The first section of known kind among some lines, inside a section or outside, and the lines
behind it. -/
def next : Option Open → List Bytes → Except Failure (Option (Section × List Bytes))
  | none, [] => .ok none
  | some o, [] => .error (.missingEnd o.label)
  | state, line :: rest =>
    if startMark.isPrefixOf line then
      match startLabel? line with
      | none => .error (.illegalStart line)
      | some label => next (some ⟨label, (state.map Open.body).getD []⟩) rest
    else
      match state with
      | none => next none rest
      | some o =>
        if (endMark ++ o.label ++ closingMark).isPrefixOf line then
          match Kind.ofLabel? o.label with
          | none => next none rest
          | some kind =>
            match Base64.decode o.body with
            | .error cause => .error (.base64 cause)
            | .ok der => .ok (some (⟨kind, der⟩, rest))
        else next (some { o with body := o.body ++ line }) rest

/-- A section takes at least one line. -/
theorem next_shorter {ls rest : List Bytes} {state : Option Open} {s : Section}
    (h : next state ls = .ok (some (s, rest))) : rest.length < ls.length := by
  fun_induction next state ls generalizing rest with
  | case1 => simp at h
  | case2 => simp at h
  | case3 => simp at h
  | case4 state line ls _ label _ ih => have := ih h; simp only [List.length_cons]; omega
  | case5 line ls _ ih => have := ih h; simp only [List.length_cons]; omega
  | case6 line ls _ o _ _ ih => have := ih h; simp only [List.length_cons]; omega
  | case7 => simp at h
  | case8 line ls _ o _ kind _ der _ =>
    simp only [Except.ok.injEq, Option.some.injEq, Prod.mk.injEq] at h
    simp only [List.length_cons, h.2]
    omega
  | case9 line ls _ o _ ih => have := ih h; simp only [List.length_cons]; omega

/-- The sections among some lines. -/
def sectionsOfLines (ls : List Bytes) : Except Failure (List Section) :=
  match _h : next none ls with
  | .error e => .error e
  | .ok none => .ok []
  | .ok (some (s, rest)) => (s :: ·) <$> sectionsOfLines rest
termination_by ls.length
decreasing_by exact next_shorter _h

/-- The first value that `pick` finds in a section; what stands behind it is not read. -/
def firstOfLines {α : Type} (pick : Section → Option α) (ls : List Bytes) :
    Except Failure (Option α) :=
  match _h : next none ls with
  | .error e => .error e
  | .ok none => .ok none
  | .ok (some (s, rest)) =>
    match pick s with
    | some a => .ok (some a)
    | none => firstOfLines pick rest
termination_by ls.length
decreasing_by exact next_shorter _h

/-- The sections of a file. -/
def sections (content : Bytes) : Except Failure (List Section) := sectionsOfLines (lines content)

end StreamHost.Pem
