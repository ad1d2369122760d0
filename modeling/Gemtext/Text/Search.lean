/-! # Searching a text

A recogniser reads a text from its head and, where it succeeds, gives the rest behind
what it recognised. Here a recogniser is tried at every place of a text, from the left,
and the first success counts. A text is found, skipped or replaced by this alone.
-/

namespace Gemtext.Text

/-- The text before the first place where `found?` succeeds, and the rest it gives there. -/
def splitAt? (found? : List Char → Option (List Char)) :
    List Char → Option (List Char × List Char)
  | [] => (found? []).map fun rest => ([], rest)
  | c :: t =>
    match found? (c :: t) with
    | some rest => some ([], rest)
    | none => (splitAt? found? t).map fun parts => (c :: parts.1, parts.2)

def dropPrefix? : (lead : List Char) → List Char → Option (List Char)
  | [], t => some t
  | _ :: _, [] => none
  | p :: ps, c :: t => if p = c then dropPrefix? ps t else none

/-- The rest behind the first occurrence of a fixed text. -/
def dropThrough? (mark t : List Char) : Option (List Char) :=
  (splitAt? (dropPrefix? mark) t).map Prod.snd

/-- The first place found splits the text: nothing before it is lost. -/
theorem splitAt?_eq_some {found? : List Char → Option (List Char)} {t before rest : List Char}
    (h : splitAt? found? t = some (before, rest)) :
    ∃ place, t = before ++ place ∧ found? place = some rest := by
  induction t generalizing before with
  | nil =>
    simp only [splitAt?, Option.map_eq_some_iff, Prod.mk.injEq] at h
    obtain ⟨r, hr, rfl, rfl⟩ := h
    exact ⟨[], rfl, hr⟩
  | cons c t ih =>
    rw [splitAt?] at h
    split at h
    · next r hr =>
      obtain ⟨rfl, rfl⟩ := Prod.mk.inj (Option.some.inj h)
      exact ⟨c :: t, rfl, hr⟩
    · obtain ⟨⟨b, r⟩, hb, he⟩ := Option.map_eq_some_iff.1 h
      obtain ⟨rfl, rfl⟩ := Prod.mk.inj he
      obtain ⟨place, rfl, hp⟩ := ih hb
      exact ⟨place, rfl, hp⟩

theorem dropPrefix?_eq_some_iff {lead t rest : List Char} :
    dropPrefix? lead t = some rest ↔ t = lead ++ rest := by
  induction lead generalizing t with
  | nil => simp [dropPrefix?]
  | cons p ps ih =>
    cases t with
    | nil => simp [dropPrefix?]
    | cons c t =>
      by_cases h : p = c
      · simp [dropPrefix?, h, ih]
      · simp [dropPrefix?, h, Ne.symm h]

end Gemtext.Text
