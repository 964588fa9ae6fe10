import StreamHost.Text.CharSet

/-!
White space in the Unicode sense, and trimming. Every place that ignores white space around a text
(domain names, suite names, filter directives) ignores this set.
-/

namespace StreamHost.Text

/-- The characters with the Unicode property `White_Space`. -/
def blanks : CharSet := ⟨[
  (0x9, 0xd), (0x20, 0x20), (0x85, 0x85), (0xa0, 0xa0), (0x1680, 0x1680), (0x2000, 0x200a),
  (0x2028, 0x2029), (0x202f, 0x202f), (0x205f, 0x205f), (0x3000, 0x3000)]⟩

/-- White space. -/
def isBlank (c : Char) : Bool := blanks.contains c

/-- Removes white space from the front. -/
def trimStart (cs : List Char) : List Char := cs.dropWhile isBlank

/-- Removes white space from the end. -/
def trimEnd (cs : List Char) : List Char := (cs.reverse.dropWhile isBlank).reverse

/-- Removes white space from both ends. -/
def trim (cs : List Char) : List Char := trimEnd (trimStart cs)

end StreamHost.Text
