/-! # Splitting a text

A text is cut at every character of a kind, and the pieces are joined again with a text
between them. There is always one piece more than there are cuts.
-/

namespace Gemtext.Text

/-- The pieces between the characters that satisfy `p`. -/
def splitWhere (p : Char → Bool) : List Char → List (List Char)
  | [] => [[]]
  | c :: t =>
    if p c then [] :: splitWhere p t
    else
      match splitWhere p t with
      | [] => [[c]]
      | piece :: pieces => (c :: piece) :: pieces

def joinWith (sep : List Char) : List (List Char) → List Char
  | [] => []
  | [piece] => piece
  | piece :: pieces => piece ++ sep ++ joinWith sep pieces

theorem splitWhere_ne_nil (p : Char → Bool) (t : List Char) : splitWhere p t ≠ [] := by
  cases t with
  | nil => simp [splitWhere]
  | cons c t =>
    rw [splitWhere]
    split
    · simp
    · split <;> simp

/-- Joining the pieces with the character they were cut at gives the text back. -/
theorem joinWith_splitWhere (mark : Char) (t : List Char) :
    joinWith [mark] (splitWhere (· == mark) t) = t := by
  induction t with
  | nil => rfl
  | cons c t ih =>
    rw [splitWhere]
    cases h : splitWhere (· == mark) t with
    | nil => exact absurd h (splitWhere_ne_nil _ t)
    | cons piece pieces =>
      rw [h] at ih
      by_cases hc : c = mark
      · subst hc
        simp [joinWith, ih]
      · simp only [beq_iff_eq, hc, if_false]
        cases pieces with
        | nil => simpa [joinWith] using ih
        | cons q qs => simpa [joinWith] using ih

end Gemtext.Text
