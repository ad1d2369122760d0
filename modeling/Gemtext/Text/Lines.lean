import Gemtext.Text.Blank

/-! # Line breaks

A text may end its lines with CR LF, CR or LF. This module brings the three forms to
one, joins hard-wrapped lines, and settles how a finished page ends.
-/

namespace Gemtext.Text

def isBreak (c : Char) : Bool := c == '\n' || c == '\r'

/-- Ends every line with LF: each CR LF, and each CR that stands alone, becomes one LF. -/
def unixBreaks : List Char → List Char
  | [] => []
  | '\r' :: '\n' :: rest => '\n' :: unixBreaks rest
  | '\r' :: rest => '\n' :: unixBreaks rest
  | c :: rest => c :: unixBreaks rest

/-- Joins the lines of a text that goes on after a line break (`inRun`) or not: a run of
line breaks is written as `sep`, once. -/
def joinLinesFrom (sep : List Char) : (inRun : Bool) → List Char → List Char
  | _, [] => []
  | inRun, c :: rest =>
    if isBreak c then (if inRun then [] else sep) ++ joinLinesFrom sep true rest
    else c :: joinLinesFrom sep false rest

/-- Replaces every maximal run of line breaks by `sep`. -/
def joinLines (sep : List Char) (t : List Char) : List Char := joinLinesFrom sep false t

def dropEndBreaks (t : List Char) : List Char := dropEndWhile (· == '\n') t

/-- Leaves one line feed of a run of them at the end. -/
def endOnce (t : List Char) : List Char :=
  if t.getLast? = some '\n' then dropEndBreaks t ++ ['\n'] else t

/-- Only a carriage return is read together with what stands behind it. -/
theorem unixBreaks_append {s : List Char} (plain : '\r' ∉ s) (t : List Char) :
    unixBreaks (s ++ t) = s ++ unixBreaks t := by
  induction s with
  | nil => rfl
  | cons c s ih =>
    obtain ⟨other, behind⟩ := List.ne_and_not_mem_of_not_mem_cons plain
    rw [List.cons_append, unixBreaks, ih behind, List.cons_append]
    · exact fun _ same => absurd same.symm other
    · exact other.symm

theorem unixBreaks_eq_self {t : List Char} (plain : '\r' ∉ t) : unixBreaks t = t := by
  simpa [unixBreaks] using unixBreaks_append plain []

@[simp] theorem joinLines_nil (sep : List Char) : joinLines sep [] = [] := rfl

theorem isBreak_iff {c : Char} : isBreak c = true ↔ c = '\n' ∨ c = '\r' := by
  simp [isBreak]

theorem isWhite_of_isBreak {c : Char} (h : isBreak c = true) : isWhite c = true := by
  rcases isBreak_iff.mp h with rfl | rfl <;> rfl

/-- Joined lines hold what is no break, and what is written for breaks. -/
theorem of_mem_joinLinesFrom {sep t : List Char} {inRun : Bool} {c : Char}
    (member : c ∈ joinLinesFrom sep inRun t) : c ∈ sep ∨ isBreak c = false := by
  induction t generalizing inRun with
  | nil => cases member
  | cons d rest ih =>
    rw [joinLinesFrom] at member
    split at member
    · rcases List.mem_append.mp member with between | behind
      · cases inRun with
        | true => cases between
        | false => exact .inl between
      · exact ih behind
    · next other =>
      rcases List.mem_cons.mp member with rfl | behind
      · exact .inr (Bool.not_eq_true _ ▸ other)
      · exact ih behind

theorem joinLines_no_break {sep : List Char} (none : ∀ c ∈ sep, isBreak c = false)
    (t : List Char) : ∀ c ∈ joinLines sep t, isBreak c = false :=
  fun c member => (of_mem_joinLinesFrom member).elim (none c) id

/-- Where nothing breaks a line, no line feed stands. -/
theorem no_feed_of_no_break {t : List Char} (oneLine : ∀ c ∈ t, isBreak c = false) : '\n' ∉ t :=
  fun member => Bool.noConfusion (oneLine '\n' member)

theorem of_mem_intercalate {sep : List Char} {parts : List (List Char)} {c : Char}
    (member : c ∈ sep.intercalate parts) : c ∈ sep ∨ ∃ t ∈ parts, c ∈ t := by
  induction parts with
  | nil => cases member
  | cons t rest ih =>
    cases rest with
    | nil => exact .inr ⟨t, List.mem_cons_self, by simpa using member⟩
    | cons next rest =>
      rw [List.intercalate_cons_cons, List.mem_append, List.mem_append] at member
      rcases member with (first | between) | behind
      · exact .inr ⟨t, List.mem_cons_self, first⟩
      · exact .inl between
      · exact (ih behind).imp_right fun ⟨u, inside, found⟩ =>
          ⟨u, List.mem_cons_of_mem t inside, found⟩

/-- What stands in front of the first break is kept. -/
theorem joinLines_append {s : List Char} (oneLine : ∀ c ∈ s, isBreak c = false)
    (sep t : List Char) : joinLines sep (s ++ t) = s ++ joinLines sep t := by
  induction s with
  | nil => rfl
  | cons c s ih =>
    obtain ⟨first, others⟩ := List.forall_mem_cons.mp oneLine
    have behind := ih others
    rw [joinLines] at behind
    simp [joinLines, joinLinesFrom, first, behind]

/-- A text on one line stays as it is. -/
theorem joinLines_eq_self {t : List Char} (oneLine : ∀ c ∈ t, isBreak c = false) (sep : List Char) :
    joinLines sep t = t := by
  simpa using joinLines_append oneLine sep []

end Gemtext.Text
