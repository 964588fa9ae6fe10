import StreamHost.Text.Reader

/-!
The small parts of the settings format: white space, comments, line ends, keys and strings.
-/

namespace StreamHost.Toml

open Text (Reader)

def isSpace (c : Char) : Bool := c == ' ' || c == '\t'

/-- Removes white space from the front of a line. -/
def skipSpace (cs : List Char) : List Char := cs.dropWhile isSpace

/-- Characters that may stand in comments: all but control characters, the tab aside. -/
def isCommentChar (c : Char) : Bool := c == '\t' || (' ' ≤ c && c ≠ '\x7f')

/-- A line end at the front. -/
def lineEnd? : List Char → Option (List Char)
  | '\n' :: rest => some rest
  | '\r' :: '\n' :: rest => some rest
  | _ => none

/-- Removes a comment from the front. -/
def skipComment : List Char → List Char
  | '#' :: rest => rest.dropWhile isCommentChar
  | cs => cs

/-- What must follow a statement: nothing but white space and a comment up to the line's end. -/
def lineTail? (cs : List Char) : Option (List Char) :=
  match skipComment (skipSpace cs) with
  | [] => some []
  | rest => lineEnd? rest

/-- Removes white space, comments and line ends; a comment must reach the end of its line. -/
def skipLines : (fuel : Nat) → List Char → List Char
  | 0, cs => cs
  | fuel + 1, cs =>
    match skipSpace cs with
    | '#' :: rest =>
      match lineEnd? (rest.dropWhile isCommentChar) with
      | some rest => skipLines fuel rest
      | none => '#' :: rest
    | cs =>
      match lineEnd? cs with
      | some rest => skipLines fuel rest
      | none => cs

/-- The character with the number that exactly `width` hexadecimal digits give. -/
def codePoint (width : Nat) : Reader Char := fun cs =>
  let ds := (cs.take width).filterMap (Text.digitValue? 16)
  let n := Text.ofDigits 16 ds
  if ds.length = width ∧ n.isValidChar then some (Char.ofNat n, cs.drop width) else none

/-- What follows a backslash. -/
def escape : Reader Char
  | 'b' :: cs => some ('\x08', cs)
  | 't' :: cs => some ('\t', cs)
  | 'n' :: cs => some ('\n', cs)
  | 'f' :: cs => some ('\x0c', cs)
  | 'r' :: cs => some ('\r', cs)
  | '"' :: cs => some ('"', cs)
  | '\\' :: cs => some ('\\', cs)
  | 'u' :: cs => codePoint 4 cs
  | 'U' :: cs => codePoint 8 cs
  | _ => none

/-- The rest of a string on one line, up to its quote. -/
def basicRest : (fuel : Nat) → Reader (List Char)
  | 0, _ => none
  | fuel + 1, cs =>
    match cs with
    | [] => none
    | '"' :: rest => some ([], rest)
    | '\\' :: rest => do
      let (c, rest) ← escape rest
      let (s, rest) ← basicRest fuel rest
      return (c :: s, rest)
    | c :: rest =>
      if isCommentChar c then do
        let (s, rest) ← basicRest fuel rest
        return (c :: s, rest)
      else none

/-- The rest of a literal string on one line, up to its quote. -/
def literalRest : Reader (List Char)
  | [] => none
  | c :: rest =>
    if c = '\'' then some ([], rest)
    else if isCommentChar c then do
      let (s, rest) ← literalRest rest
      return (c :: s, rest)
    else none

/-- A line end right after the opening quotes does not count. -/
def dropFirstLineEnd (cs : List Char) : List Char := (lineEnd? cs).getD cs

/-- How many quotes stand at the front, up to `most`. -/
def countQuotes (q : Char) : (most : Nat) → List Char → Nat
  | most + 1, c :: cs => if c = q then countQuotes q most cs + 1 else 0
  | _, _ => 0

/-- White space and at least one line end after a backslash, and all that follows of either. -/
def lineContinuation? (fuel : Nat) (cs : List Char) : Option (List Char) :=
  let rec skip : Nat → List Char → List Char
    | 0, cs => cs
    | fuel + 1, cs =>
      let cs := skipSpace cs
      match lineEnd? cs with
      | some rest => skip fuel rest
      | none => cs
  (lineEnd? (skipSpace cs)).map (skip fuel)

/-- The rest of a string over several lines, up to three quotes; one or two quotes may stand right in
front of them or anywhere inside. In a literal string a backslash is a character like any other. -/
def multilineRest (q : Char) (literal : Bool) : (fuel : Nat) → Reader (List Char)
  | 0, _ => none
  | fuel + 1, cs =>
    match cs with
    | [] => none
    | c :: rest =>
      if c = q then
        let n := countQuotes q 6 cs
        if n < 3 then do
          let (s, rest) ← multilineRest q literal fuel (cs.drop n)
          return (List.replicate n q ++ s, rest)
        else if n < 6 then some (List.replicate (n - 3) q, cs.drop n)
        else none
      else if c = '\\' && !literal then
        match lineContinuation? fuel rest with
        | some rest => multilineRest q literal fuel rest
        | none => do
          let (c, rest) ← escape rest
          let (s, rest) ← multilineRest q literal fuel rest
          return (c :: s, rest)
      else
        match lineEnd? cs with
        | some rest => do
          let (s, rest) ← multilineRest q literal fuel rest
          return ('\n' :: s, rest)
        | none =>
          if isCommentChar c then do
            let (s, rest) ← multilineRest q literal fuel rest
            return (c :: s, rest)
          else none

/-- A string of any of the four kinds. -/
def string : Reader String := fun cs =>
  (fun (s, rest) => (String.ofList s, rest)) <$>
    match cs with
    | '"' :: '"' :: '"' :: rest => multilineRest '"' false (rest.length + 1) (dropFirstLineEnd rest)
    | '\'' :: '\'' :: '\'' :: rest =>
      multilineRest '\'' true (rest.length + 1) (dropFirstLineEnd rest)
    | '"' :: rest => basicRest (rest.length + 1) rest
    | '\'' :: rest => literalRest rest
    | _ => none

def isKeyChar (c : Char) : Bool := c.isAlphanum || c == '_' || c == '-'

/-- One part of a key: bare, or a string on one line. -/
def keyPart : Reader String := fun cs =>
  match cs with
  | '"' :: rest => (fun (s, rest) => (String.ofList s, rest)) <$> basicRest (rest.length + 1) rest
  | '\'' :: rest => (fun (s, rest) => (String.ofList s, rest)) <$> literalRest rest
  | _ =>
    match cs.takeWhile isKeyChar with
    | [] => none
    | k => some (String.ofList k, cs.dropWhile isKeyChar)

/-- The limit on the parts of a key and on the depth of nested values. -/
def nestingLimit : Nat := 80

/-- The parts of a key between dots. -/
def keyParts : (fuel : Nat) → Reader (List String)
  | 0, _ => none
  | fuel + 1, cs => do
    let (k, rest) ← keyPart (skipSpace cs)
    match skipSpace rest with
    | '.' :: rest => do
      let (ks, rest) ← keyParts fuel rest
      return (k :: ks, rest)
    | rest => return ([k], rest)

/-- A key: fewer parts than the limit. -/
def key : Reader (List String) := keyParts (nestingLimit - 1)

end StreamHost.Toml
