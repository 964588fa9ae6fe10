import StreamHost.Error
import StreamHost.Text.Blank
import StreamHost.Text.Split

/-!
Domain patterns: an exact host name, or `*.` in front of a parent domain, which stands for exactly one
label there. Names are compared in their normal form: without white space around them, without trailing
dots, and in lower case as far as ASCII goes.
-/

namespace StreamHost.Names

/-- `normalize`: the normal form of a host name. -/
def normalize (name : List Char) : List Char :=
  (((Text.trim name).reverse.dropWhile (· == '.')).reverse).map Char.toLower

/-- A pattern in normal form: a `DomainPattern`. -/
structure Pattern where
  text : String
  deriving DecidableEq, Repr

/-- Why a text is no pattern. -/
inductive PatternError where
  | empty
  /-- A `*` that is not the leading label, or one with nothing behind it. -/
  | misplacedWildcard (raw : String)
  | emptyLabel (raw : String)
  deriving DecidableEq, Repr

namespace PatternError

def message : PatternError → String
  | empty => "domain pattern must not be empty"
  | misplacedWildcard raw =>
    "invalid domain pattern '" ++ raw ++ "': only a leading '*.' wildcard is supported"
  | emptyLabel raw => "invalid domain pattern '" ++ raw ++ "': empty label"

def toError (e : PatternError) : Error := .configuration e.message

end PatternError

/-- What a pattern says apart from its leading wildcard. -/
def body : List Char → List Char
  | '*' :: '.' :: rest => rest
  | cs => cs

namespace Pattern

/-- `DomainPattern::parse`: the pattern that a text means. -/
def parse (raw : String) : Except PatternError Pattern :=
  let name := normalize raw.toList
  if name.isEmpty then .error .empty
  else if (body name).isEmpty || (body name).contains '*' then .error (.misplacedWildcard raw)
  else if (Text.pieces '.' (body name)).any List.isEmpty then .error (.emptyLabel raw)
  else .ok ⟨String.ofList name⟩

/-- Whether the pattern stands for any one label in front of its parent. -/
def isWildcard (p : Pattern) : Bool :=
  match p.text.toList with
  | '*' :: '.' :: _ => true
  | _ => false

/-- The pattern that covers `name` by its first label: `*` and the rest from the first dot on. -/
def covering? (name : List Char) : Option Pattern :=
  if name.contains '.' then some ⟨String.ofList ('*' :: name.dropWhile (· != '.'))⟩ else none

theorem parse_text {raw : String} {p : Pattern} (h : parse raw = .ok p) :
    p.text = String.ofList (normalize raw.toList) := by
  simp only [parse] at h
  split at h
  · simp at h
  · split at h
    · simp at h
    · split at h
      · simp at h
      · simp only [Except.ok.injEq] at h
        rw [← h]

end Pattern

end StreamHost.Names
