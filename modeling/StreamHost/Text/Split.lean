/-!
Splitting a text at a separator, and joining it again. `pieces_ne_nil` and `intercalate_pieces` say that
nothing but separators is lost.
-/

namespace StreamHost.Text

/-- The pieces between the separators; a text without one is a single piece. -/
def pieces (sep : Char) : List Char → List (List Char)
  | [] => [[]]
  | c :: cs =>
    if c = sep then [] :: pieces sep cs
    else
      match pieces sep cs with
      | [] => [[c]]
      | p :: ps => (c :: p) :: ps

theorem pieces_ne_nil (sep : Char) (cs : List Char) : pieces sep cs ≠ [] := by
  cases cs with
  | nil => simp [pieces]
  | cons c cs =>
    unfold pieces
    split
    · simp
    · split <;> simp

theorem intercalate_pieces (sep : Char) (cs : List Char) :
    List.intercalate [sep] (pieces sep cs) = cs := by
  induction cs with
  | nil => simp [pieces, List.intercalate]
  | cons c cs ih =>
    unfold pieces
    split
    · rename_i h
      subst h
      cases hp : pieces c cs with
      | nil => exact absurd hp (pieces_ne_nil c cs)
      | cons p ps =>
        rw [hp] at ih
        simp only [List.intercalate] at ih ⊢
        simp [List.intersperse, ih]
    · cases hp : pieces sep cs with
      | nil => exact absurd hp (pieces_ne_nil sep cs)
      | cons p ps =>
        rw [hp] at ih
        simp only
        cases ps with
        | nil => simp [List.intercalate] at ih ⊢; exact ih
        | cons q qs => simp [List.intercalate] at ih ⊢; exact ih

end StreamHost.Text
