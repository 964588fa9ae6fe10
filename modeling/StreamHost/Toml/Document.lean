import StreamHost.Toml.Number

/-!
Documents: statements line by line. A statement sets a value, opens a table, or adds a table to an
array; a value that is complete cannot be changed, and no key is set twice.
-/

namespace StreamHost.Toml

open Text (Reader)

/-- Adds a value under a key whose first parts lead through tables that keys with dots have made; `made`
is the form of such tables here. -/
def insertDotted (made : TableForm) (es : Entries) : List String → Value → Option Entries
  | [], _ => none
  | [k], v =>
    match es.lookup k with
    | some _ => none
    | none => some (es ++ [(k, v)])
  | k :: ks, v =>
    match es.lookup k with
    | none => (insertDotted made [] ks v).map fun sub => es ++ [(k, .table made sub)]
    | some (.table form sub) =>
      if form = made ∨ (form = .implied ∧ 1 < ks.length) then
        (insertDotted made sub ks v).map fun sub => es.set k (.table form sub)
      else none
    | some (.array .headers items) =>
      -- the last table of the array takes the key
      match items.getLast? with
      | some (.table form sub) =>
        if 1 < ks.length then
          (insertDotted made sub ks v).map fun sub =>
            es.set k (.array .headers (items.dropLast ++ [.table form sub]))
        else none
      | _ => none
    | some _ => none

/-- The items of an array, with a comma between them and perhaps behind the last. -/
def arrayItems (item : Reader Value) : (fuel : Nat) → Reader (List Value)
  | 0, _ => none
  | fuel + 1, cs =>
    match skipLines cs.length cs with
    | ']' :: rest => some ([], rest)
    | cs => do
      let (v, rest) ← item cs
      match skipLines rest.length rest with
      | ',' :: rest => do
        let (vs, rest) ← arrayItems item fuel rest
        return (v :: vs, rest)
      | ']' :: rest => return ([v], rest)
      | _ => none

/-- A key, an equals sign and a value. -/
def keyValue (item : Reader Value) : Reader (List String × Value) := fun cs => do
  let (k, cs) ← key cs
  let (v, cs) ← Reader.after '=' (fun cs => item (skipSpace cs)) cs
  return ((k, v), cs)

/-- The entries of a table between braces, with a comma between them, on top of earlier ones. -/
def inlineEntries (item : Reader Value) : (fuel : Nat) → Entries → Reader Entries
  | 0, _, _ => none
  | fuel + 1, es, cs => do
    let ((k, v), cs) ← keyValue item cs
    let es ← insertDotted .inlineDotted es k v
    match skipSpace cs with
    | ',' :: rest => inlineEntries item fuel es rest
    | '}' :: rest => return (es, rest)
    | _ => none

/-- A value with at most `depth` levels of arrays and tables. -/
def value : (depth : Nat) → Reader Value
  | depth, cs =>
    match cs with
    | '"' :: _ | '\'' :: _ => (fun (s, rest) => (.string s, rest)) <$> string cs
    | 't' :: 'r' :: 'u' :: 'e' :: rest => some (.boolean true, rest)
    | 'f' :: 'a' :: 'l' :: 's' :: 'e' :: rest => some (.boolean false, rest)
    | '[' :: rest =>
      match depth with
      | 0 => none
      | depth + 1 =>
        (fun (vs, rest) => (.array .inline vs, rest)) <$>
          arrayItems (value depth) (rest.length + 1) rest
    | '\x7b' :: rest =>
      match depth with
      | 0 => none
      | depth + 1 =>
        match skipSpace rest with
        | '\x7d' :: rest => some (.table .inline [], rest)
        | rest =>
          (fun (es, rest) => (.table .inline es, rest)) <$>
            inlineEntries (value depth) (rest.length + 1) [] rest
    | _ => number cs

/-- A statement. -/
inductive Statement where
  | assign (key : List String) (v : Value)
  | openTable (key : List String)
  | addTable (key : List String)
  deriving Repr

/-- A header's key up to its closing bracket. -/
def headerKey : Reader (List String) := fun cs => do
  let (k, cs) ← key cs
  let (_, cs) ← Reader.mark ']' cs
  return (k, cs)

/-- A statement without what follows it on its line. -/
def statement : Reader Statement
  | '[' :: '[' :: cs => do
    let (k, cs) ← headerKey cs
    let (_, cs) ← Reader.mark ']' cs
    return (.addTable k, cs)
  | '[' :: cs => do
    let (k, cs) ← headerKey cs
    return (.openTable k, cs)
  | cs => do
    let ((k, v), cs) ← keyValue (value (nestingLimit - 1)) cs
    return (.assign k v, cs)

/-- All statements. -/
def statements : (fuel : Nat) → List Char → Option (List Statement)
  | 0, _ => none
  | fuel + 1, cs =>
    match skipLines cs.length cs with
    | [] => some []
    | '#' :: rest => if (rest.dropWhile isCommentChar).isEmpty then some [] else none
    | cs => do
      let (s, rest) ← statement cs
      let rest ← lineTail? rest
      let ss ← statements fuel rest
      return s :: ss

/-- Changes the entries of the table that a path leads to; tables on the way are made where they are
missing, and of an array of tables the last one counts. -/
def atPath (es : Entries) (f : Entries → Option Entries) : List String → Option Entries
  | [] => f es
  | k :: ks =>
    match es.lookup k with
    | none => (atPath [] f ks).map fun sub => es ++ [(k, .table .implied sub)]
    | some (.table form sub) =>
      if form = .inline then none
      else (atPath sub f ks).map fun sub => es.set k (.table form sub)
    | some (.array .headers items) =>
      match items.getLast? with
      | some (.table form sub) =>
        (atPath sub f ks).map fun sub =>
          es.set k (.array .headers (items.dropLast ++ [.table form sub]))
      | _ => none
    | some _ => none

/-- Where assignments go. -/
inductive Current where
  | root
  | table (path : List String)
  deriving Repr

/-- A document while it is read: the entries so far and the open table. -/
structure Draft where
  entries : Entries := []
  current : Current := .root

namespace Draft

/-- Opens a table by its header. A table that so far was only implied moves to the place of the header. -/
def openTable (d : Draft) (k : List String) : Option Draft := do
  let last ← k.getLast?
  let es ← atPath d.entries (fun es =>
    match es.lookup last with
    | none => some (es ++ [(last, .table .header [])])
    | some (.table .implied sub) => some (es.erase last ++ [(last, .table .header sub)])
    | some _ => none) k.dropLast
  return { entries := es, current := .table k }

/-- Adds a table to an array by its header. -/
def addTable (d : Draft) (k : List String) : Option Draft := do
  let last ← k.getLast?
  let es ← atPath d.entries (fun es =>
    match es.lookup last with
    | none => some (es ++ [(last, .array .headers [.table .header []])])
    | some (.array .headers items) =>
      some (es.set last (.array .headers (items ++ [.table .header []])))
    | some _ => none) k.dropLast
  return { entries := es, current := .table k }

/-- Sets a value in the open table. -/
def assign (d : Draft) (k : List String) (v : Value) : Option Draft := do
  let path := match d.current with | .root => [] | .table p => p
  let es ← atPath d.entries (fun es => insertDotted .dotted es k v) path
  return { d with entries := es }

/-- Carries out a statement. -/
def step (d : Draft) : Statement → Option Draft
  | .assign k v => d.assign k v
  | .openTable k => d.openTable k
  | .addTable k => d.addTable k

end Draft

/-- The entries of a document; a byte order mark in front of it is ignored. -/
def parse (text : String) : Option Entries := do
  let cs := match text.toList with | '\ufeff' :: cs => cs | cs => cs
  let ss ← statements (cs.length + 1) cs
  let d ← ss.foldlM Draft.step {}
  return d.entries

end StreamHost.Toml
