import StreamHost.Config.Decode
import StreamHost.Config.Validation
import StreamHost.Files

/-!
Settings from files: the file is read, its form is read, and the settings are checked.
-/

namespace StreamHost.Config

/-- Why settings cannot be had. -/
inductive LoadError where
  | io (e : IoError)
  /-- The text is no document of the settings format. -/
  | notWellFormed
  | schema (e : SchemaError)
  | invalid (vs : List Violation)
  deriving DecidableEq, Repr

/-- What a reader is told. -/
def LoadError.message : LoadError → String
  | .io e => "IO error: " ++ e.message
  | .notWellFormed => "Parse error"
  | .schema e => "Parse error: " ++ e.message?.getD "malformed choice"
  | .invalid vs => "Validation failed: " ++ ", ".intercalate (vs.map Violation.text)

/-- The structured form. -/
def LoadError.shape : LoadError → String
  | .io e => Shape.wrap "Io" e.shape
  | .notWellFormed => Shape.wrap "Parse" "NotWellFormed"
  | .schema e => Shape.wrap "Parse" (Shape.text (e.message?.getD "malformed choice"))
  | .invalid vs => Shape.wrap "Validation" (Shape.list (vs.map Violation.shape))

/-- `parse_config`: settings from the text of a document. -/
def parse (text : String) : Except LoadError Server :=
  match Toml.parse text with
  | none => .error .notWellFormed
  | some entries =>
    match Server.layout.decode (.table .header entries) with
    | .error e => .error (.schema e)
    | .ok c =>
      match validate c with
      | .error vs => .error (.invalid vs)
      | .ok () => .ok c

/-- The text of a file. -/
def readText (files : Files) (path : String) : Except IoError String :=
  match files.read path with
  | .error e => .error e
  | .ok content =>
    match Text.decode? content with
    | some text => .ok text
    | none => .error (.fixed .invalidData "stream did not contain valid UTF-8")

/-- `load_config`: settings from a file. -/
def load (files : Files) (path : String) : Except LoadError Server :=
  match readText files path with
  | .error e => .error (.io e)
  | .ok text => parse text

end StreamHost.Config
