/-!
Values of the settings format: scalars, arrays and tables. A table keeps its entries in the order in
which a reader meets them, and remembers how it was made, because that decides what may be added to it
later.
-/

namespace StreamHost.Toml

/-- How a table was made. -/
inductive TableForm where
  /-- Written between braces; complete. -/
  | inline
  /-- By a header of its own. -/
  | header
  /-- By the header of a table inside it; its own header may still follow. -/
  | implied
  /-- By a key with dots. -/
  | dotted
  /-- By a key with dots between braces. -/
  | inlineDotted
  deriving DecidableEq, Repr

/-- How an array was made. -/
inductive ArrayForm where
  /-- Written between brackets; complete. -/
  | inline
  /-- By headers, one for each table in it. -/
  | headers
  deriving DecidableEq, Repr

/-- A value. Of a date or time only its presence counts. -/
inductive Value where
  | string (s : String)
  | integer (n : Int)
  | float (x : Float)
  | boolean (b : Bool)
  | moment
  | array (form : ArrayForm) (items : List Value)
  | table (form : TableForm) (entries : List (String × Value))
  deriving Repr, Inhabited

/-- The entries of a table. -/
abbrev Entries := List (String × Value)

namespace Entries

/-- Puts a value in the place of the one with the same key, or at the end. -/
def set (es : Entries) (k : String) (v : Value) : Entries :=
  match es with
  | [] => [(k, v)]
  | (k', v') :: rest => if k' = k then (k, v) :: rest else (k', v') :: set rest k v

/-- Removes the value of a key. -/
def erase (es : Entries) (k : String) : Entries := es.filter fun e => e.1 != k

end Entries

end StreamHost.Toml
