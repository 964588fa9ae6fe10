import StreamHost.Text.Unprintable
import StreamHost.Text.Extender

/-!
Quoted texts: how a text is written where a reader must see its exact characters. Line breaks, tabs,
quotes and backslashes have short escapes, characters without a form of their own are written by
number.

A *literal* stands between double quotes and escapes each extending character; a literal file name
escapes the single quote as well. A *preview* has no quotes around it, so it escapes both kinds of
quote, and an extending character only at the very start, where nothing stands before it.
-/

namespace StreamHost.Text

/-- The digits of a number in a base up to sixteen, lower case. -/
def digits (base n : Nat) : String := String.ofList (Nat.toDigits base n)

/-- A character by its number, as in `\u` with the hexadecimal code in braces. -/
def escapeByNumber (c : Char) : String := "\\u\x7b" ++ digits 16 c.toNat ++ "\x7d"

/-- Which of the optional escapes apply to a character. -/
structure EscapeRule where
  extenders : Bool
  singleQuote : Bool
  doubleQuote : Bool

/-- The written form of one character. -/
def escapeChar (rule : EscapeRule) (c : Char) : String :=
  if c = '\x00' then "\\0"
  else if c = '\t' then "\\t"
  else if c = '\r' then "\\r"
  else if c = '\n' then "\\n"
  else if c = '\\' then "\\\\"
  else if c = '"' && rule.doubleQuote then "\\\""
  else if c = '\'' && rule.singleQuote then "\\'"
  else if rule.extenders && isExtender c then escapeByNumber c
  else if isUnprintable c then escapeByNumber c
  else c.toString

/-- A text between double quotes. -/
def quote (s : String) : String :=
  "\"" ++ String.join (s.toList.map (escapeChar ⟨true, false, true⟩)) ++ "\""

/-- A file name between double quotes: as a literal, but a single quote is escaped too. -/
def quoteName (s : String) : String :=
  "\"" ++ String.join (s.toList.map (escapeChar ⟨true, true, true⟩)) ++ "\""

/-- A text without quotes around it, fit to stand inside another. -/
def preview (s : String) : String :=
  match s.toList with
  | [] => ""
  | c :: cs =>
    escapeChar ⟨true, true, true⟩ c ++ String.join (cs.map (escapeChar ⟨false, true, true⟩))

end StreamHost.Text
