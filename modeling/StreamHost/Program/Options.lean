/-!
Command lines. A command knows some options, each with a long name, perhaps a letter, and perhaps a value.
`Reading.words` reads a list of words from left to right, up to the first word that is no option; what an
option means is what it does to the settings that are being read.

A value follows its option as the next word, or after `=`, or right behind the letter. A word that looks
like an option is never a value, no option is given twice, and a request for help counts as soon as it is
read.
-/

namespace StreamHost.Program

/-- An option that reads settings of type `α`. -/
structure Switch (α : Type) where
  letter : Option Char := none
  long : String
  /-- The name of the value, if there is one. -/
  value : Option String := none
  help : String := ""
  /-- What it does to the settings; nothing comes of a value that it cannot have. -/
  set : String → α → Option α

/-- Why reading stops. -/
inductive Refusal where
  /-- Help was asked for. -/
  | help
  /-- The words make no sense. -/
  | misuse
  deriving DecidableEq, Repr

/-- Where the reading of a command line stands. -/
structure Reading (α : Type) where
  settings : α
  /-- The long names of the options that were given. -/
  given : List String := []
  /-- The option whose value comes next. -/
  pending : Option (Switch α) := none

/-- What comes after the options. -/
inductive Rest where
  | nothing
  | operand (word : String) (rest : List String)
  /-- Behind a double dash there are no options. -/
  | escaped (rest : List String)
  deriving DecidableEq, Repr

namespace Reading

variable {α : Type}

/-- Whether a word is taken for an option. -/
def looksLikeOption (w : String) : Bool := w.startsWith "-" && w != "-"

/-- An option with its value takes effect. -/
def apply (r : Reading α) (s : Switch α) (value : String) : Except Refusal (Reading α) :=
  if r.given.contains s.long then .error .misuse
  else
    match s.set value r.settings with
    | none => .error .misuse
    | some settings => .ok { settings, given := s.long :: r.given }

/-- An option without a value yet: it takes effect, or waits for its value. -/
def enter (r : Reading α) (s : Switch α) : Except Refusal (Reading α) :=
  if s.value.isSome then .ok { r with pending := some s } else r.apply s ""

/-- An option by its long name, perhaps with a value behind `=`. -/
def longOption (known : List (Switch α)) (r : Reading α) (text : List Char) :
    Except Refusal (Reading α) :=
  let name := String.ofList (text.takeWhile (· ≠ '='))
  let attached : Option String :=
    match text.dropWhile (· ≠ '=') with
    | [] => none
    | _ :: value => some (String.ofList value)
  if name = "help" then .error (if attached.isNone then .help else .misuse)
  else
    match known.find? fun s => s.long = name, attached with
    | none, _ => .error .misuse
    | some s, none => r.enter s
    | some s, some v => if s.value.isSome then r.apply s v else .error .misuse

/-- Options by their letters. Behind the letter of an option with a value stands the value. -/
def letters (known : List (Switch α)) (r : Reading α) : List Char → Except Refusal (Reading α)
  | [] => .ok r
  | c :: cs =>
    if c = 'h' then .error .help
    else
      match known.find? fun s => s.letter = some c with
      | none => .error .misuse
      | some s =>
        if s.value.isNone then do letters known (← r.apply s "") cs
        else
          match cs with
          | [] => .ok { r with pending := some s }
          | '=' :: value => r.apply s (String.ofList value)
          | value => r.apply s (String.ofList value)

/-- One word that is an option, or the value that an option waits for. -/
def word (known : List (Switch α)) (r : Reading α) (w : String) : Except Refusal (Reading α) :=
  match r.pending with
  | some s => if looksLikeOption w then .error .misuse else { r with pending := none }.apply s w
  | none =>
    match w.toList with
    | '-' :: '-' :: text => r.longOption known text
    | '-' :: cs => r.letters known cs
    | _ => .error .misuse

/-- Reads options up to the first word that is none. -/
def words (known : List (Switch α)) (r : Reading α) : List String → Except Refusal (α × Rest)
  | [] => if r.pending.isSome then .error .misuse else .ok (r.settings, .nothing)
  | w :: ws =>
    if r.pending.isNone && w == "--" then .ok (r.settings, .escaped ws)
    else if r.pending.isNone && !looksLikeOption w then .ok (r.settings, .operand w ws)
    else do words known (← r.word known w) ws

end Reading

/-! ## Values -/

namespace Value

/-- A number in decimal digits, perhaps with a sign, within a range. A minus sign is only understood
where `signed` allows. -/
def number? (signed : Bool) (most : Nat) (text : String) : Option Nat :=
  let (negative, digits) :=
    match text.toList with
    | '+' :: ds => (false, ds)
    | '-' :: ds => (signed, if signed then ds else '-' :: ds)
    | ds => (false, ds)
  if digits.isEmpty || !digits.all Char.isDigit then none
  else
    let n := digits.foldl (fun n c => n * 10 + (c.toNat - '0'.toNat)) 0
    if n ≤ most && (n == 0 || !negative) then some n else none

/-- A port. -/
def port? (text : String) : Option UInt16 := (number? true 65535 text).map Nat.toUInt16

/-- A number of 64 bits. -/
def word64? (text : String) : Option Nat := number? false (UInt64.size - 1) text

/-- A path, which is not empty. -/
def path? (text : String) : Option String := if text.isEmpty then none else some text

end Value

/-! ## Help -/

namespace Help

/-- Two columns, the right one aligned. -/
def columns (rows : List (String × String)) : List String :=
  let width := (rows.map fun r => r.1.length).foldl max 0
  rows.map fun r => "  " ++ r.1 ++ String.ofList (List.replicate (width - r.1.length) ' ') ++ "  " ++ r.2

/-- How an option is written. -/
def left {α : Type} (s : Switch α) : String :=
  (match s.letter with
    | some c => "-" ++ c.toString ++ ", "
    | none => "    ") ++ "--" ++ s.long ++ (s.value.map fun v => " <" ++ v ++ ">").getD ""

/-- A titled section. -/
def section_ (title : String) (rows : List (String × String)) : List String :=
  if rows.isEmpty then [] else "" :: (title ++ ":") :: columns rows

/-- The help of a command. -/
def text {α : Type} (about usage : String) (commands operands : List (String × String))
    (known : List (Switch α)) : List String :=
  [about, "", "Usage: " ++ usage] ++ section_ "Commands" commands ++ section_ "Arguments" operands ++
    section_ "Options" ((known.map fun s => (left s, s.help)) ++ [("-h, --help", "Print help")])

end Help

end StreamHost.Program
