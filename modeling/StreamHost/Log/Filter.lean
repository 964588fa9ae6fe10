import StreamHost.Bytes
import StreamHost.Error
import StreamHost.Log.Level
import StreamHost.Log.ValuePattern
import StreamHost.Text.Alphanumeric
import StreamHost.Text.Blank
import StreamHost.Text.Split
import StreamHost.Text.Utf8

/-!
Log filters: which lines are written. A filter is a list of directives between commas, each a limit, a
target, or `target[span{field=value}]=limit` with parts left out. For a line the most specific directive
whose target begins the line's target, and whose fields the line has, decides.

A directive is read without the white space around it, but the positions found that way are applied to
the text with the white space, so a blank in front shifts every part by its size.
-/

namespace StreamHost.Log

/-- One rule of a filter. -/
structure Directive where
  target : Option String := none
  span : Option String := none
  fields : List String := []
  limit : Limit := some .trace
  deriving Repr, Inhabited

inductive FilterError where
  | blank
  | directive (filter : String)
  | level (filter : String)
  /-- The pattern for the value of a field cannot be used. -/
  | pattern (filter : String) (why : ValuePattern.Fault)
  deriving DecidableEq, Repr

namespace FilterError

/-- Why a pattern cannot be used. -/
def reason : ValuePattern.Fault → String
  | .malformed => "error building NFA"
  | .wordBoundary =>
    "unsupported regex feature for DFAs: cannot build DFAs for regexes with Unicode word boundaries; " ++
      "switch to ASCII word boundaries, or heuristically enable Unicode word boundaries or use a " ++
      "different regex engine"

def message : FilterError → String
  | blank => "log level must not be empty"
  | directive f => "invalid log level '" ++ f ++ "': invalid filter directive"
  | level f =>
    "invalid log level '" ++ f ++ "': error parsing level filter: expected one of " ++
      "\"off\", \"error\", \"warn\", \"info\", \"debug\", \"trace\", or a number 0-5"
  | pattern f why => "invalid log level '" ++ f ++ "': invalid field filter: " ++ reason why

def toError (e : FilterError) : Error := .configuration e.message

end FilterError

/-- Why a single directive cannot be read. -/
inductive DirectiveError where
  | malformed | badLevel
  | badPattern (why : ValuePattern.Fault)
  deriving DecidableEq, Repr

/-- Where the reading of a directive stands; positions count bytes. -/
inductive Place where
  | start
  | name (start : Nat)
  | span (start : Nat)
  | field (start : Nat)
  | fields
  | target
  | level (start : Nat)
  deriving Repr

/-- The part of a text between two positions. -/
def slice (s : Bytes) (start stop : Nat) : String := Text.decodeLossy ((s.take stop).drop start)

/-- The pattern for the value of a field, which stands behind its name. Nothing behind a second equals sign
counts. -/
def valuePattern? (field : String) : Option (List Char) := (Text.pieces '=' field.toList)[1]?

/-- Checks a field. -/
def checkField (field : String) : Except DirectiveError Unit :=
  if field.isEmpty then .error .malformed
  else
    match valuePattern? field with
    | none => .ok ()
    | some p => (ValuePattern.check p).mapError .badPattern

/-- One character of a directive, at a position. -/
def Directive.step (whole : Bytes) (d : Directive) (p : Place) (i : Nat) (c : Char) :
    Except DirectiveError (Directive × Place) :=
  match p with
  | .start =>
    if c = '[' then .ok (d, .span (i + 1))
    else if c = '-' ∨ c = ':' ∨ c = '_' ∨ Text.isAlphanumeric c then .ok (d, .name i)
    else .error .malformed
  | .name start =>
    if c = '=' then .ok ({ d with target := slice whole start i }, .level (i + 1))
    else if c = '[' then .ok ({ d with target := slice whole start i }, .span (i + 1))
    else .ok (d, p)
  | .target => if c = '=' then .ok (d, .level (i + 1)) else .error .malformed
  | .span start =>
    if c = ']' then .ok ({ d with span := slice whole start i }, .target)
    else if c = '\x7b' then
      let name := slice whole start i
      .ok ({ d with span := if name.isEmpty then none else some name }, .field (i + 1))
    else .ok (d, p)
  | .field start =>
    if c = '\x7d' then
      let f := slice whole start i
      match checkField f with
      | .error e => .error e
      | .ok () => .ok ({ d with fields := d.fields ++ [f] }, .fields)
    else .ok (d, p)
  | .fields => if c = ']' then .ok (d, .target) else .error .malformed
  | .level _ => .ok (d, p)

/-- Reads characters from a position on. -/
def Directive.steps (whole : Bytes) (d : Directive) (p : Place) (i : Nat) :
    List Char → Except DirectiveError (Directive × Place)
  | [] => .ok (d, p)
  | c :: cs =>
    match d.step whole p i c with
    | .error e => .error e
    | .ok (d, p) => steps whole d p (i + c.utf8Size) cs

/-- The directive that a text means. -/
def Directive.parse (piece : List Char) : Except DirectiveError Directive :=
  let whole := Bytes.ofText (String.ofList piece)
  match Directive.steps whole {} .start 0 (Text.trim piece) with
  | .error e => .error e
  | .ok (d, .name start) =>
    let s := slice whole start whole.length
    if s.isEmpty then .ok d
    else
      match Limit.parse? s with
      | some l => .ok { d with limit := l }
      | none => .ok { d with target := s }
  | .ok (d, .level start) =>
    let s := slice whole start whole.length
    if s.isEmpty then .ok d
    else
      match Limit.parse? s with
      | some l => .ok { d with limit := l }
      | none => .error .badLevel
  | .ok (d, .target) => .ok d
  | .ok _ => .error .malformed

/-- A filter. -/
structure Filter where
  directives : List Directive
  deriving Repr

namespace Filter

/-- The filter that a list of directives means. Empty pieces do not count. -/
def parseDirectives (s : String) : Except DirectiveError Filter :=
  (fun ds => ⟨ds⟩) <$>
    ((Text.pieces ',' s.toList).filter fun p => !p.isEmpty).mapM Directive.parse

/-- The filter that a setting means. -/
def parse (s : String) : Except FilterError Filter :=
  if (Text.trim s.toList).isEmpty then .error .blank
  else
    match parseDirectives s with
    | .ok f => .ok f
    | .error .malformed => .error (.directive s)
    | .error .badLevel => .error (.level s)
    | .error (.badPattern why) => .error (.pattern s why)

/-- Whether a directive applies to lines outside of any span: it asks for no value. -/
def isStatic (d : Directive) : Bool :=
  d.span.isNone && d.fields.all fun f => (valuePattern? f).isNone

/-- Whether a directive applies to a line with a target and fields. -/
def covers (d : Directive) (target : String) (fields : List String) : Bool :=
  isStatic d && d.target.all (fun t => t.toList.isPrefixOf target.toList) &&
    d.fields.all fun f => fields.contains f

/-- The more specific of two directives: the one with the longer target, then the one with more fields, then
the one that is larger as a text. Of two that are alike it is the later one. -/
def moreSpecific (d e : Directive) : Directive :=
  let size (d : Directive) : Nat := (d.target.map fun t => t.utf8ByteSize + 1).getD 0
  let target (d : Directive) : String := d.target.getD ""
  let order := (compare (size d) (size e)).then <|
    (compare d.fields.length e.fields.length).then <|
    (compare (target d) (target e)).then (compareFields d.fields e.fields)
  if order = .gt then d else e
where
  /-- Compares lists of fields from the first on. -/
  compareFields : List String → List String → Ordering
    | [], [] => .eq
    | [], _ :: _ => .lt
    | _ :: _, [] => .gt
    | a :: as, b :: bs => (compare a b).then (compareFields as bs)

/-- The directive that decides about a line. -/
def deciding? (f : Filter) (target : String) (fields : List String) : Option Directive :=
  (f.directives.filter fun d => covers d target fields).foldl
    (fun best d => some (match best with | none => d | some b => moreSpecific b d)) none

/-- Whether a line is written. An empty filter lets errors through. -/
def admits (f : Filter) (level : Level) (target : String) (fields : List String) : Bool :=
  if f.directives.isEmpty then level == .error
  else
    match f.deciding? target fields with
    | some d => d.limit.admits level
    | none => false

end Filter

end StreamHost.Log
