import StreamHost.Text.Quoted

/-!
Shapes: the one-line written form of structured values. A record is its name with its fields between
braces, an optional value is `Some(x)` or `None`, a sequence stands between square brackets.
-/

namespace StreamHost.Shape

/-- A record with its fields in order. -/
def record (name : String) (fields : List (String × String)) : String :=
  name ++ " \x7b " ++ ", ".intercalate (fields.map fun f => f.1 ++ ": " ++ f.2) ++ " \x7d"

/-- A constructor with one value. -/
def wrap (name value : String) : String := name ++ "(" ++ value ++ ")"

def option : Option String → String
  | none => "None"
  | some v => wrap "Some" v

def list (items : List String) : String := "[" ++ ", ".intercalate items ++ "]"

def bool (b : Bool) : String := if b then "true" else "false"

def text (s : String) : String := Text.quote s

def path (s : String) : String := Text.quoteName s

/-- Bytes as the list of their values. -/
def bytes (bs : List UInt8) : String := list (bs.map fun b => toString b.toNat)

end StreamHost.Shape
