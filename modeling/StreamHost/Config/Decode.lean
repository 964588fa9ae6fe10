import StreamHost.Config.Schema
import StreamHost.Decimal.Text
import StreamHost.Toml.Document

/-!
Settings from values of the settings format. Keys without a meaning are ignored, the first problem in
the order of the document counts, and missing keys are looked at last. A section may also be an array
of its fields in the order of their declaration.
-/

namespace StreamHost.Config

open Toml (Value)

/-- What is wrong with a value. -/
inductive SchemaError where
  | missingField (name : String)
  | unknownVariant (given : String) (known : List String)
  | invalidType (found expected : String)
  | invalidValue (found expected : String)
  | invalidLength (found : Nat) (expected : String)
  /-- A choice that is written neither as a text nor as a table with one empty entry. -/
  | malformedChoice
  deriving DecidableEq, Repr

namespace SchemaError

def ticked (s : String) : String := "\x60" ++ s ++ "\x60"

/-- The choices, as a sentence lists them. -/
def listed : List String → String
  | [a] => ticked a
  | [a, b] => ticked a ++ " or " ++ ticked b
  | all => "one of " ++ ", ".intercalate (all.map ticked)

/-- What a reader is told; a malformed choice has no text of its own. -/
def message? : SchemaError → Option String
  | missingField name => some ("missing field " ++ ticked name)
  | unknownVariant given known =>
    some ("unknown variant " ++ ticked given ++ ", expected " ++ listed known)
  | invalidType found expected => some ("invalid type: " ++ found ++ ", expected " ++ expected)
  | invalidValue found expected => some ("invalid value: " ++ found ++ ", expected " ++ expected)
  | invalidLength n expected =>
    some ("invalid length " ++ toString n ++ ", expected " ++ expected)
  | malformedChoice => none

end SchemaError

/-- How a value is named in a message. -/
def describe : Value → String
  | .string s => "string " ++ Text.quote s
  | .integer n => "integer " ++ SchemaError.ticked (toString n)
  | .float x => "floating point " ++ SchemaError.ticked (Decimal.floatText x)
  | .boolean b => "boolean " ++ SchemaError.ticked (Shape.bool b)
  | .moment => "map"
  | .array _ _ => "sequence"
  | .table _ _ => "map"

/-- Reads an `α` from a value. -/
abbrev Decoder (α : Type) := Value → Except SchemaError α

namespace Decoder

variable {α : Type}

/-- The value has the wrong type. -/
def wrongType (expected : String) : Decoder α := fun v => .error (.invalidType (describe v) expected)

/-- A text, named as `expected` in messages. -/
def textAs (expected : String) : Decoder String
  | .string s => .ok s
  | v => wrongType expected v

def text : Decoder String := textAs "a string"
def path : Decoder String := textAs "path string"

def boolean : Decoder Bool
  | .boolean b => .ok b
  | v => wrongType "a boolean" v

/-- A number below `size`. -/
def natural (size : Nat) (expected : String) : Decoder Nat
  | .integer n =>
    if 0 ≤ n ∧ n < size then .ok n.toNat
    else .error (.invalidValue (describe (.integer n)) expected)
  | v => wrongType expected v

def port : Decoder UInt16 := fun v => Nat.toUInt16 <$> natural UInt16.size "u16" v
def millis : Decoder Nat := natural UInt64.size "u64"
def count : Decoder Nat := natural UInt64.size "usize"

def list (item : Decoder α) : Decoder (List α)
  | .array _ vs => vs.mapM item
  | v => wrongType "a sequence" v

def some (item : Decoder α) : Decoder (Option α) := fun v => Option.some <$> item v

/-- One of the given choices: its name, or a table with nothing but the name over something empty. -/
def choice (known : List (String × α)) : Decoder α
  | .string s => find s
  | .table _ [(s, v)] => do
    let a ← find s
    match v with
    | .table _ [] | .array _ [] => return a
    | _ => throw .malformedChoice
  | _ => .error .malformedChoice
where
  find (s : String) : Except SchemaError α :=
    match known.lookup s with
    | .some a => .ok a
    | none => .error (.unknownVariant s (known.map Prod.fst))

end Decoder

/-- How a section is made up. -/
structure Section (α : Type) where
  name : String
  /-- All fields in the order of their declaration. -/
  fields : List String
  /-- How many of them, from the first on, must be given. -/
  required : Nat
  /-- What is there before any field is set. -/
  initial : α
  /-- Sets a field. -/
  set : α → String → Value → Except SchemaError α

namespace Section

variable {α : Type}

/-- Sets the fields that a table gives, in its order. -/
def setAll (s : Section α) (a : α) : List (String × Value) → Except SchemaError α
  | [] => .ok a
  | (k, v) :: rest =>
    if s.fields.contains k then do
      let a ← s.set a k v
      s.setAll a rest
    else s.setAll a rest

/-- The first required field that is not given. -/
def missing? (s : Section α) (given : List String) : Option String :=
  (s.fields.take s.required).find? fun f => !given.contains f

/-- Reads a section from a table, or from an array of its fields. -/
def decode (s : Section α) : Decoder α
  | .table _ entries => do
    let a ← s.setAll s.initial entries
    match s.missing? (entries.map Prod.fst) with
    | some f => throw (.missingField f)
    | none => return a
  | .moment =>
    match s.missing? [] with
    | some f => .error (.missingField f)
    | none => .ok s.initial
  | .array _ items => do
    let a ← s.setAll s.initial (s.fields.zip items)
    if items.length < s.required then
      throw (.invalidLength items.length
        ("struct " ++ s.name ++ " with " ++ toString s.fields.length ++ " elements"))
    else return a
  | v => Decoder.wrongType ("struct " ++ s.name) v

end Section

namespace Listener

def layout : Section Listener where
  name := "ListenerConfig"
  fields :=
    ["host", "port", "unix_path", "native_transport", "bind_timeout_ms", "max_connections"]
  required := 0
  initial := {}
  set l k v :=
    match k with
    | "host" => do return { l with host := ← Decoder.some Decoder.text v }
    | "port" => do return { l with port := ← Decoder.some Decoder.port v }
    | "unix_path" => do return { l with unixPath := ← Decoder.some Decoder.path v }
    | "native_transport" => do return { l with native := ← Decoder.boolean v }
    | "bind_timeout_ms" => do return { l with bindTimeoutMs := ← Decoder.millis v }
    | "max_connections" => do return { l with maxConnections := ← Decoder.count v }
    | _ => .ok l

end Listener

namespace SniEntry

def layout : Section SniEntry where
  name := "SniEntry"
  fields := ["domain", "cert_path", "key_path"]
  required := 3
  initial := {}
  set e k v :=
    match k with
    | "domain" => do return { e with domain := ← Decoder.text v }
    | "cert_path" => do return { e with certPath := ← Decoder.path v }
    | "key_path" => do return { e with keyPath := ← Decoder.path v }
    | _ => .ok e

end SniEntry

/-- The names of versions in settings. -/
def versionNames : List (String × StreamHost.Tls.Version) := [("1.2", .v12), ("1.3", .v13)]

/-- The names of flavors in settings. -/
def flavorNames : List (String × StreamHost.Tls.Flavor) :=
  [StreamHost.Tls.Flavor.none, .tcp, .http11, .h2].map fun f => (f.name, f)

/-- The names of layouts of log lines in settings. -/
def logFormatNames : List (String × LogFormat) := [LogFormat.pretty, .json].map fun f => (f.name, f)

namespace Tls

def layout : Section Tls where
  name := "TlsConfig"
  fields := ["cert_path", "key_path", "cipher_suites", "protocol_versions", "alpn", "flavor",
    "handshake_timeout_ms", "sni"]
  required := 2
  initial := {}
  set t k v :=
    match k with
    | "cert_path" => do return { t with certPath := ← Decoder.path v }
    | "key_path" => do return { t with keyPath := ← Decoder.path v }
    | "cipher_suites" => do return { t with cipherSuites := ← Decoder.list Decoder.text v }
    | "protocol_versions" => do
      return { t with protocolVersions := ← Decoder.list (Decoder.choice versionNames) v }
    | "alpn" => do return { t with alpn := ← Decoder.some (Decoder.list Decoder.text) v }
    | "flavor" => do return { t with flavor := ← Decoder.choice flavorNames v }
    | "handshake_timeout_ms" => do return { t with handshakeTimeoutMs := ← Decoder.millis v }
    | "sni" => do return { t with sni := ← Decoder.list SniEntry.layout.decode v }
    | _ => .ok t

end Tls

namespace Shutdown

def layout : Section Shutdown where
  name := "ShutdownConfig"
  fields := ["track_connections", "drain_timeout_ms"]
  required := 0
  initial := {}
  set s k v :=
    match k with
    | "track_connections" => do return { s with trackConnections := ← Decoder.boolean v }
    | "drain_timeout_ms" => do return { s with drainTimeoutMs := ← Decoder.millis v }
    | _ => .ok s

end Shutdown

namespace Observability

def layout : Section Observability where
  name := "ObservabilityConfig"
  fields := ["log_level", "log_format", "wiretap", "metrics_enabled", "metrics_address"]
  required := 0
  initial := {}
  set o k v :=
    match k with
    | "log_level" => do return { o with logLevel := ← Decoder.text v }
    | "log_format" => do return { o with logFormat := ← Decoder.choice logFormatNames v }
    | "wiretap" => do return { o with wiretap := ← Decoder.boolean v }
    | "metrics_enabled" => do return { o with metricsEnabled := ← Decoder.boolean v }
    | "metrics_address" => do return { o with metricsAddress := ← Decoder.text v }
    | _ => .ok o

end Observability

namespace Server

def layout : Section Server where
  name := "ServerConfig"
  fields := ["listener", "tls", "shutdown", "observability"]
  required := 0
  initial := {}
  set c k v :=
    match k with
    | "listener" => do return { c with listener := ← Listener.layout.decode v }
    | "tls" => do return { c with tls := ← Decoder.some Tls.layout.decode v }
    | "shutdown" => do return { c with shutdown := ← Shutdown.layout.decode v }
    | "observability" => do return { c with observability := ← Observability.layout.decode v }
    | _ => .ok c

end Server

end StreamHost.Config
