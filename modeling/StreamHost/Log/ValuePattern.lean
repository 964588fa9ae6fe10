import StreamHost.Text.Alphanumeric
import StreamHost.Text.Blank
import StreamHost.Text.Reader

/-!
Patterns for the values of fields. A pattern that is a truth value or a number stands for that value, and
every other one is a regular expression; `check` says whether it can be used. The expressions know no
Unicode tables, so classes and cases of characters only work where a flag restricts them to ASCII. A
pattern stands inside braces, so nothing in it that needs a closing brace can be complete.
-/

namespace StreamHost.Log.ValuePattern

open Text (Reader)

/-- Why a pattern cannot be used. -/
inductive Fault where
  /-- It has no meaning. -/
  | malformed
  /-- It asks where a word ends in a script other than ASCII. -/
  | wordBoundary
  deriving DecidableEq, Repr

/-! ## Numbers -/

/-- A text without a sign in front. -/
def dropSign : List Char → List Char
  | '+' :: cs | '-' :: cs => cs
  | cs => cs

/-- Digits, perhaps with a point among them, and perhaps an exponent. -/
def isDecimal (cs : List Char) : Bool :=
  let whole := cs.takeWhile Char.isDigit
  let (fraction, rest) :=
    match cs.dropWhile Char.isDigit with
    | '.' :: cs => (cs.takeWhile Char.isDigit, cs.dropWhile Char.isDigit)
    | cs => ([], cs)
  (!whole.isEmpty || !fraction.isEmpty) &&
    match rest with
    | [] => true
    | 'e' :: cs | 'E' :: cs => !(dropSign cs).isEmpty && (dropSign cs).all Char.isDigit
    | _ => false

/-- The numbers that are written in letters. -/
def wordNumbers : List String := ["inf", "infinity", "nan"]

/-- A number with an optional sign. -/
def isNumber (cs : List Char) : Bool :=
  let cs := dropSign cs
  isDecimal cs || wordNumbers.contains (String.ofList (cs.map Char.toLower))

/-! ## Flags -/

/-- What flags say about the characters that follow. -/
structure Flags where
  insensitive : Bool := false
  unicode : Bool := true
  /-- Blanks and comments do not count. -/
  spaced : Bool := false
  deriving DecidableEq, Repr

namespace Flags

/-- The letters of all flags. Those that are not in the record change nothing that matters here. -/
def letters : List Char := ['i', 'm', 's', 'U', 'u', 'R', 'x']

/-- Sets the flag with a letter. -/
def set (f : Flags) (letter : Char) (on : Bool) : Flags :=
  match letter with
  | 'i' => { f with insensitive := on }
  | 'u' => { f with unicode := on }
  | 'x' => { f with spaced := on }
  | _ => f

/-- Skips a comment up to the end of its line. -/
def afterComment (cs : List Char) : List Char := (cs.dropWhile (· ≠ '\n')).drop 1

/-- Skips what does not count. -/
def skipWithin (f : Flags) : (fuel : Nat) → List Char → List Char
  | 0, cs => cs
  | fuel + 1, cs =>
    match cs with
    | [] => []
    | c :: rest =>
      if !f.spaced then c :: rest
      else if Text.isBlank c then skipWithin f fuel rest
      else if c = '#' then skipWithin f fuel (afterComment rest)
      else c :: rest

/-- Skips what does not count. -/
def skip (f : Flags) (cs : List Char) : List Char := f.skipWithin cs.length cs

/-- Reads flags up to the character that ends them, a colon or a closing parenthesis. No flag stands
twice, and behind a minus, of which there is one at most, stands something. -/
def read (f : Flags) (seen : List Char) (off : Bool) : Reader (Flags × List Char)
  | [] => none
  | c :: cs =>
    if c = ':' ∨ c = ')' then
      if seen.head? = some '-' then none else some ((f, seen), c :: cs)
    else if seen.contains c then none
    else if c = '-' then read f (c :: seen) true cs
    else if letters.contains c then read (f.set c !off) (c :: seen) off cs
    else none

end Flags

/-! ## Single characters -/

/-- What a character or an escape stands for. -/
inductive Atom where
  /-- A character, perhaps as a byte of two hexadecimal digits. -/
  | literal (c : Char) (isByte : Bool)
  | anything
  /-- A place at an end of a line or of the text. -/
  | edge
  /-- A place where a word begins or ends. -/
  | wordEdge
  /-- Digits, blanks or word characters, or all others. -/
  | kind (negated : Bool)
  /-- The characters with a property. -/
  | property
  deriving DecidableEq, Repr

/-- So many hexadecimal digits, and the character with that number. -/
def hexLiteral (f : Flags) : (count : Nat) → (value : Nat) → Reader Nat
  | 0, value, cs => some (value, f.skip cs)
  | count + 1, value, cs =>
    match f.skip cs with
    | [] => none
    | c :: cs => do
      let v ← Text.digitValue? 16 c
      hexLiteral f count (value * 16 + v) cs

/-- What follows a backslash. -/
def escape (f : Flags) : Reader Atom
  | [] => none
  | c :: cs =>
    let hex (count : Nat) : Option (Atom × List Char) := do
      let (n, rest) ← hexLiteral f count 0 cs
      if n.isValidChar then some (.literal (Char.ofNat n) (count == 2), rest) else none
    match c with
    | 'x' => hex 2
    | 'u' => hex 4
    | 'U' => hex 8
    | 'p' | 'P' => some (.property, (f.skip cs).drop 1)
    | 'd' | 's' | 'w' => some (.kind false, cs)
    | 'D' | 'S' | 'W' => some (.kind true, cs)
    | 'a' | 'f' | 't' | 'n' | 'r' | 'v' => some (.literal ' ' false, cs)
    | 'A' | 'z' => some (.edge, cs)
    | 'b' | 'B' | '<' | '>' => some (.wordEdge, cs)
    | c => if c.toNat < 128 && !c.isAlphanum then some (.literal c false, cs) else none

/-- One character, or an escape. -/
def atom (f : Flags) : Reader Atom
  | [] => none
  | '\\' :: cs => escape f cs
  | '.' :: cs => some (.anything, cs)
  | '^' :: cs | '$' :: cs => some (.edge, cs)
  | c :: cs => some (.literal c false, cs)

/-- Whether what stands for characters can be used under some flags. A byte outside of ASCII is no
character. -/
def Atom.isUsable (f : Flags) : Atom → Bool
  | literal c isByte => if f.unicode then !f.insensitive else !(isByte && decide (127 < c.toNat))
  | anything => f.unicode
  | edge | wordEdge => true
  | kind negated => !f.unicode && !negated
  | property => false

/-! ## Sets -/

/-- The names of the classes between colons. -/
def classNames : List String :=
  ["alnum", "alpha", "ascii", "blank", "cntrl", "digit", "graph", "lower", "print", "punct", "space",
    "upper", "word", "xdigit"]

/-- A class between colons, behind its opening bracket: whether it is negated. -/
def namedClass : Reader Bool
  | ':' :: cs =>
    let (negated, cs) := match cs with | '^' :: cs => (true, cs) | cs => (false, cs)
    match cs.dropWhile (· ≠ ':') with
    | ':' :: ']' :: rest =>
      if classNames.contains (String.ofList (cs.takeWhile (· ≠ ':'))) then some (negated, rest) else none
    | _ => none
  | _ => none

/-- Whether a single character can be an element of a set. -/
def Atom.isElement (f : Flags) : Atom → Bool
  | literal c isByte => (literal c isByte).isUsable f && (f.unicode || decide (c.toNat < 128))
  | kind negated => (kind negated).isUsable f
  | _ => false

/-- One end of a range, or an element. -/
def element (f : Flags) : Reader Atom
  | [] => none
  | '\\' :: cs => escape f cs
  | c :: cs => some (.literal c false, cs)

/-- An element of a set, or a range. -/
def range (f : Flags) : Reader Unit := fun cs => do
  let (a, cs) ← element f cs
  let alone (cs : List Char) : Option (Unit × List Char) :=
    if a.isElement f then some ((), cs) else none
  match f.skip cs with
  | [] => none
  | '-' :: rest =>
    match f.skip rest with
    | [] => none
    | ']' :: _ | '-' :: _ => alone ('-' :: rest)
    | after =>
      let (b, after) ← element f after
      match a, b with
      | .literal c _, .literal d _ =>
        if a.isElement f && b.isElement f && decide (c ≤ d) then some ((), after) else none
      | _, _ => none
  | cs => alone cs

/-- A set that is open: how deep its parts are, and how many stand beside each other so far. -/
structure OpenSet where
  /-- The depth of what stands in front of the last operator. -/
  operand : Option Nat := none
  count : Nat := 0
  depth : Nat := 0
  deriving Repr

namespace OpenSet

/-- Takes a part in. -/
def add (s : OpenSet) (depth : Nat) : OpenSet :=
  { s with count := s.count + 1, depth := max s.depth depth }

/-- The depth of all parts together. -/
def total (s : OpenSet) : Nat :=
  let parts := if 2 ≤ s.count then s.depth + 1 else s.depth
  s.operand.elim parts fun d => max d parts + 1

/-- An operator ends its left operand. -/
def operator (s : OpenSet) : OpenSet := { operand := some s.total }

end OpenSet

/-- Takes minus signs off the front. -/
def leadingDashes (f : Flags) (s : OpenSet) : (fuel : Nat) → List Char → OpenSet × List Char
  | 0, cs => (s, cs)
  | fuel + 1, cs =>
    match cs with
    | '-' :: rest => leadingDashes f (s.add 0) fuel (f.skip rest)
    | cs => (s, cs)

/-- The start of a set behind its bracket. A minus or a closing bracket right there is an element. -/
def openSet (f : Flags) : Reader OpenSet := fun cs => do
  let cs := f.skip cs
  let cs ← match cs with
    | '^' :: rest => if f.unicode then some (f.skip rest) else none
    | cs => some cs
  let (s, cs) := leadingDashes f {} cs.length cs
  let (s, cs) :=
    match s.count, cs with
    | 0, ']' :: rest => (s.add 0, rest)
    | _, cs => (s, cs)
  if s.count = 0 || (Atom.literal '-' false).isElement f then some (s, cs) else none

/-- Sets that are open inside each other, up to the end of the outermost: its depth. -/
def sets (f : Flags) : (fuel : Nat) → List OpenSet → Reader Nat
  | 0, _, _ => none
  | _, [], _ => none
  | fuel + 1, s :: outer, cs =>
    match f.skip cs with
    | [] => none
    | '[' :: cs =>
      match namedClass cs with
      | some (negated, rest) =>
        if if f.unicode then f.insensitive else negated then none
        else sets f fuel (s.add 0 :: outer) rest
      | none => do
        let (t, rest) ← openSet f cs
        sets f fuel (t :: s :: outer) rest
    | ']' :: cs =>
      match outer with
      | [] => some (s.total + 1, cs)
      | t :: outer => sets f fuel (t.add (s.total + 1) :: outer) cs
    | '&' :: '&' :: cs | '-' :: '-' :: cs | '~' :: '~' :: cs => sets f fuel (s.operator :: outer) cs
    | cs => do
      let ((), cs) ← range f cs
      sets f fuel (s.add 0 :: outer) cs

/-- A set behind its bracket: its depth. -/
def set (f : Flags) : Reader Nat := fun cs => do
  let (s, rest) ← openSet f cs
  sets f (rest.length + 1) [s] rest

/-! ## Expressions -/

/-- A sequence that is being read, with the alternatives before it. -/
structure Sequence where
  /-- Whether the last part can be repeated, and then how deep it is. -/
  last : Option Nat := none
  count : Nat := 0
  depth : Nat := 0
  /-- The depth of the alternatives before it. -/
  alternatives : Option Nat := none
  deriving Repr

namespace Sequence

/-- Takes a part in. -/
def add (s : Sequence) (depth : Nat) : Sequence :=
  { s with last := some depth, count := s.count + 1, depth := max s.depth depth }

/-- Takes flags in, which cannot be repeated. -/
def addFlags (s : Sequence) : Sequence := { s with last := none, count := s.count + 1 }

/-- Repeats the last part. -/
def repeated (s : Sequence) : Option Sequence :=
  s.last.map fun d => { s with last := some (d + 1), depth := max s.depth (d + 1) }

/-- The depth of the sequence alone. -/
def own (s : Sequence) : Nat := if 2 ≤ s.count then s.depth + 1 else s.depth

/-- Begins another alternative. -/
def branch (s : Sequence) : Sequence := { alternatives := some (max (s.alternatives.getD 0) s.own) }

/-- The depth of all. -/
def total (s : Sequence) : Nat := s.alternatives.elim s.own fun d => max d s.own + 1

end Sequence

/-- How deep an expression may be. -/
def depthLimit : Nat := 250

/-- Where the reading of an expression stands. -/
structure Reading where
  flags : Flags := {}
  inner : Sequence := {}
  /-- The sequences around the open groups, each with its flags. -/
  outer : List (Flags × Sequence) := []
  names : List (List Char) := []
  /-- Whether it asks where a word ends in any script. -/
  wordEdges : Bool := false

namespace Reading

/-- Opens a group under some flags. -/
def enter (r : Reading) (f : Flags) : Reading :=
  { r with flags := f, inner := {}, outer := (r.flags, r.inner) :: r.outer }

/-- Closes a group. -/
def leave (r : Reading) : Option Reading :=
  match r.outer with
  | [] => none
  | (f, s) :: outer => some { r with flags := f, inner := s.add (r.inner.total + 1), outer }

/-- Whether a character can stand in the name of a group. -/
def isNameChar (c : Char) : Bool := c = '_' || c = '.' || c = '[' || c = ']' || Text.isAlphanumeric c

/-- Whether a character can begin the name of a group. -/
def isNameStart (c : Char) : Bool := c = '_' || (Text.isAlphanumeric c && !c.isDigit)

/-- Opens a group with a name; each name stands once. -/
def enterNamed (r : Reading) (cs : List Char) : Option (Reading × List Char) :=
  let name := cs.takeWhile (· ≠ '>')
  match name, cs.dropWhile (· ≠ '>') with
  | c :: more, '>' :: rest =>
    if isNameStart c && more.all isNameChar && !r.names.contains name then
      some ({ r.enter r.flags with names := name :: r.names }, rest)
    else none
  | _, _ => none

/-- What follows an opening parenthesis: a group, or flags. -/
def openGroup (r : Reading) (cs : List Char) : Option (Reading × List Char) :=
  match r.flags.skip cs with
  | '?' :: '<' :: '=' :: _ | '?' :: '<' :: '!' :: _ => none
  | '?' :: 'P' :: '<' :: cs | '?' :: '<' :: cs => r.enterNamed cs
  | '?' :: cs =>
    match r.flags.read [] false cs with
    | some ((f, seen), ')' :: rest) =>
      if seen.isEmpty then none else some ({ r with flags := f, inner := r.inner.addFlags }, rest)
    | some ((f, _), _ :: rest) => some (r.enter f, rest)
    | _ => none
  | cs => some (r.enter r.flags, cs)

/-- Takes a single character in. -/
def take (r : Reading) (a : Atom) : Option Reading :=
  if a.isUsable r.flags then
    some { r with
      inner := r.inner.add 0
      wordEdges := r.wordEdges || (decide (a = .wordEdge) && r.flags.unicode) }
  else none

/-- Reads to the end. -/
def finish : (fuel : Nat) → Reading → List Char → Option Reading
  | 0, _, _ => none
  | fuel + 1, r, cs =>
    match r.flags.skip cs with
    | [] => if r.outer.isEmpty && decide (r.inner.total ≤ depthLimit) then some r else none
    | '(' :: cs => do
      let (r, cs) ← r.openGroup cs
      finish fuel r cs
    | ')' :: cs => do finish fuel (← r.leave) cs
    | '|' :: cs => finish fuel { r with inner := r.inner.branch } cs
    | '[' :: cs => do
      let (depth, cs) ← set r.flags cs
      finish fuel { r with inner := r.inner.add depth } cs
    | '?' :: cs | '*' :: cs | '+' :: cs => do
      let inner ← r.inner.repeated
      finish fuel { r with inner } (match cs with | '?' :: cs => cs | cs => cs)
    | '\x7b' :: _ => none
    | cs => do
      let (a, cs) ← atom r.flags cs
      finish fuel (← r.take a) cs

end Reading

/-- Whether a pattern can be used. -/
def check (cs : List Char) : Except Fault Unit :=
  if isNumber cs then .ok ()
  else
    match Reading.finish (cs.length + 1) {} cs with
    | none => .error .malformed
    | some r => if r.wordEdges then .error .wordBoundary else .ok ()

end StreamHost.Log.ValuePattern
