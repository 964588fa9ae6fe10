/-!
Upper case, as far as it leads into ASCII. A few letters outside ASCII have upper-case forms inside it
(the long s, the dotless i, the sharp s and the ligatures); every other letter outside ASCII keeps an
upper-case form outside ASCII, so for comparing with ASCII names it may stay as it is.
-/

namespace StreamHost.Text

/-- The upper-case form of a character, if it is ASCII; else the character. -/
def upperChar (c : Char) : List Char :=
  match c with
  | 'ß' => ['S', 'S']
  | 'ı' => ['I']
  | 'ſ' => ['S']
  | 'ﬀ' => ['F', 'F']
  | 'ﬁ' => ['F', 'I']
  | 'ﬂ' => ['F', 'L']
  | 'ﬃ' => ['F', 'F', 'I']
  | 'ﬄ' => ['F', 'F', 'L']
  | 'ﬅ' => ['S', 'T']
  | 'ﬆ' => ['S', 'T']
  | c => [c.toUpper]

/-- The upper-case form of a text. -/
def upper (cs : List Char) : List Char := cs.flatMap upperChar

end StreamHost.Text
