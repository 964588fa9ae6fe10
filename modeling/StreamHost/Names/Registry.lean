import StreamHost.Names.Pattern
import StreamHost.Text.Json

/-!
Registries choose what serves a host name: the entry whose pattern is the name, else the entry whose
wildcard covers it, else the default. A registry is built step by step, a later entry for a pattern
replaces an earlier one, and a step with a pattern that cannot be read changes nothing.

`Entries` are the patterns with what they stand for, each pattern once.
-/

namespace StreamHost.Names

/-- Patterns and what they stand for. -/
structure Entries (α : Type) where
  pairs : List (Pattern × α) := []
  deriving Repr

namespace Entries

variable {α β : Type}

/-- The entry of a pattern. -/
def get? (es : Entries α) (p : Pattern) : Option α := es.pairs.lookup p

/-- Sets the entry of a pattern. -/
def insert (es : Entries α) (p : Pattern) (a : α) : Entries α :=
  ⟨(p, a) :: es.pairs.filter fun e => e.1 != p⟩

/-- Sets entries one after the other. -/
def insertAll (es : Entries α) (added : List (Pattern × α)) : Entries α :=
  added.foldl (fun es e => es.insert e.1 e.2) es

def size (es : Entries α) : Nat := es.pairs.length

def map (f : α → β) (es : Entries α) : Entries β := ⟨es.pairs.map fun e => (e.1, f e.2)⟩

@[simp] theorem get?_empty (p : Pattern) : (⟨[]⟩ : Entries α).get? p = none := rfl

theorem lookup_filter_ne (l : List (Pattern × α)) {p q : Pattern} (h : q ≠ p) :
    (l.filter fun e => e.1 != p).lookup q = l.lookup q := by
  induction l with
  | nil => rfl
  | cons e l ih =>
    obtain ⟨r, a⟩ := e
    by_cases hr : r = p
    · subst hr
      have : (q == r) = false := by simpa using h
      simp [List.lookup_cons, this, ih]
    · by_cases hq : q = r
      · subst hq
        simp [hr]
      · have : (q == r) = false := by simpa using hq
        simp [List.lookup_cons, hr, this, ih]

theorem get?_insert (es : Entries α) (p q : Pattern) (a : α) :
    (es.insert p a).get? q = if q = p then some a else es.get? q := by
  unfold get? insert
  by_cases h : q = p
  · subst h
    simp
  · have : (q == p) = false := by simpa using h
    simp [List.lookup_cons, this, h, lookup_filter_ne]

theorem get?_map (f : α → β) (es : Entries α) (p : Pattern) :
    (es.map f).get? p = (es.get? p).map f := by
  unfold get? map
  induction es.pairs with
  | nil => rfl
  | cons e l ih =>
    obtain ⟨r, a⟩ := e
    by_cases h : p = r
    · subst h
      simp
    · have : (p == r) = false := by simpa using h
      simp [List.lookup_cons, this, ih]

end Entries

/-- How a name found its entry. -/
inductive Match where
  | exact (pattern : Pattern)
  | wildcard (pattern : Pattern)
  | default
  deriving DecidableEq, Repr

namespace Match

/-- The kind of match. -/
def label : Match → String
  | exact _ => "exact"
  | wildcard _ => "wildcard"
  | default => "default"

/-- The JSON form: the kind alone, or with the pattern. -/
def json : Match → String
  | exact p => Text.Json.object [("exact", p.text)]
  | wildcard p => Text.Json.object [("wildcard", p.text)]
  | default => Text.Json.quote "default"

def shape : Match → String
  | exact p => Shape.wrap "Exact" (Shape.wrap "DomainPattern" (Shape.text p.text))
  | wildcard p => Shape.wrap "Wildcard" (Shape.wrap "DomainPattern" (Shape.text p.text))
  | default => "Default"

end Match

/-- What serves a name, and why. -/
structure Resolution (α : Type) where
  chosen : α
  matched : Match
  deriving Repr

/-- A default and entries by pattern, as `TlsRegistry` has them. -/
structure Registry (α : Type) where
  fallback : α
  entries : Entries α := {}
  deriving Repr

namespace Registry

variable {α β : Type}

/-- One answer for every name. -/
def single (a : α) : Registry α := { fallback := a }

def size (r : Registry α) : Nat := r.entries.size

/-- The patterns in order of their texts. -/
def patterns (r : Registry α) : List Pattern :=
  (r.entries.pairs.map Prod.fst).mergeSort fun p q => decide (p.text ≤ q.text)

/-- Changes every configuration and keeps the patterns. -/
def map (f : α → β) (r : Registry α) : Registry β := ⟨f r.fallback, r.entries.map f⟩

/-- What serves a name in normal form that is not empty. -/
def serve (r : Registry α) (name : List Char) : Resolution α :=
  let whole : Pattern := ⟨String.ofList name⟩
  match r.entries.get? whole with
  | some a => ⟨a, .exact whole⟩
  | none =>
    match Pattern.covering? name with
    | none => ⟨r.fallback, .default⟩
    | some p =>
      match r.entries.get? p with
      | some a => ⟨a, .wildcard p⟩
      | none => ⟨r.fallback, .default⟩

/-- `TlsRegistry::lookup`: what serves a name; no name at all, or one that is empty in normal form, gets the
default. -/
def lookup (r : Registry α) (host : Option String) : Resolution α :=
  match host.map fun h => normalize h.toList with
  | none | some [] => ⟨r.fallback, .default⟩
  | some name => r.serve name

/-- `TlsRegistry::resolve`. -/
def resolve (r : Registry α) (host : String) : α := (r.lookup (some host)).chosen

end Registry

/-- A registry in the making: a `TlsRegistryBuilder`. -/
structure RegistryBuilder (α : Type) where
  fallback : Option α := none
  entries : Entries α := {}
  deriving Repr

namespace RegistryBuilder

variable {α : Type}

def setDefault (b : RegistryBuilder α) (a : α) : RegistryBuilder α := { b with fallback := some a }

/-- The patterns of entries, or the first that cannot be read. -/
def parseAll : List (String × α) → Except PatternError (List (Pattern × α))
  | [] => .ok []
  | (raw, a) :: rest => do
    let p ← Pattern.parse raw
    let ps ← parseAll rest
    return (p, a) :: ps

/-- What can be done to a registry in the making: `set_default`, `add`, `add_all` and `set_all`. -/
inductive Op (α : Type) where
  | setDefault (a : α)
  | add (raw : String) (a : α)
  /-- Adds all entries, or none if a pattern cannot be read. -/
  | addAll (added : List (String × α))
  /-- Puts entries in place of all earlier ones, or changes nothing if a pattern cannot be read. -/
  | setAll (added : List (String × α))

/-- Changes in place. One that fails leaves what it has changed so far. -/
abbrev Edit (α : Type) := EStateM PatternError (RegistryBuilder α)

/-- Changes the entries. -/
def editEntries (f : Entries α → Entries α) : Edit α Unit := modify fun b => { b with entries := f b.entries }

/-- The changes of an operation. All patterns are read before anything is changed. -/
def edit : Op α → Edit α Unit
  | .setDefault a => modify fun b => b.setDefault a
  | .add raw a => do
    let p ← ofExcept (Pattern.parse raw)
    editEntries fun es => es.insert p a
  | .addAll added => do
    let ps ← ofExcept (parseAll added)
    editEntries fun es => es.insertAll ps
  | .setAll added => do
    let ps ← ofExcept (parseAll added)
    editEntries fun _ => {}
    editEntries fun es => es.insertAll ps

/-- What an operation makes of it. -/
def step (b : RegistryBuilder α) (op : Op α) : Except PatternError (RegistryBuilder α) :=
  match (edit op).run b with
  | .ok _ c => .ok c
  | .error e _ => .error e

/-- Adds an entry. -/
def add (b : RegistryBuilder α) (raw : String) (a : α) : Except PatternError (RegistryBuilder α) :=
  b.step (.add raw a)

/-- What is there after an operation, whether it failed or not. -/
def after (b : RegistryBuilder α) (op : Op α) : RegistryBuilder α :=
  match (edit op).run b with
  | .ok _ c | .error _ c => c

/-- What is there after operations one after the other. -/
def run (b : RegistryBuilder α) (ops : List (Op α)) : RegistryBuilder α := ops.foldl after b

/-- `TlsRegistryBuilder::build`: the registry, which needs a default. -/
def build (b : RegistryBuilder α) : Except Error (Registry α) :=
  match b.fallback with
  | some a => .ok ⟨a, b.entries⟩
  | none => .error (.configuration "a default TLS configuration is required")

end RegistryBuilder

end StreamHost.Names
