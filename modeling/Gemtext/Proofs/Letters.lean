import Mathlib.Data.List.Perm.Basic
import Mathlib.Data.List.TakeWhile
import Gemtext.Proofs.Written

/-! # Letters

Laying a text out adds and takes away whitespace, digits and the marks of quotes and items. All
other characters are letters here. A text keeps the letters of some nodes if it has them as often
as the texts of the nodes, in whatever order.
-/

namespace Gemtext

open Text

/-! ## The letters of a text -/

/-- Whitespace, digits and the marks of quotes and items. -/
def isLayout (c : Char) : Bool := isWhite c || c.isDigit || c == '>' || c == '*' || c == '.'

def letters (t : List Char) : List Char := t.filter fun c => !isLayout c

@[simp] theorem letters_nil : letters [] = [] := rfl

@[simp] theorem letters_cons (c : Char) (t : List Char) :
    letters (c :: t) = if isLayout c then letters t else c :: letters t := by
  cases h : isLayout c <;> simp [letters, h]

@[simp] theorem letters_append (s t : List Char) : letters (s ++ t) = letters s ++ letters t :=
  List.filter_append ..

theorem letters_eq_nil {t : List Char} (h : ∀ c ∈ t, isLayout c = true) : letters t = [] := by
  simpa [letters] using h

theorem letters_blank {t : List Char} (blank : isBlank t = true) : letters t = [] := by
  refine letters_eq_nil fun c member => ?_
  simp [isLayout, List.all_eq_true.mp blank c member]

@[simp] theorem letters_decimal (n : Nat) : letters (decimal n) = [] := by
  refine letters_eq_nil fun c member => ?_
  simp [isLayout, Nat.isDigit_of_mem_toDigits (by omega) (by omega) member]

/-- What a filter drops may come and go with the breaks of a text. -/
theorem filter_joinLines {p : Char → Bool} (breaks : ∀ c, isBreak c = true → p c = false)
    {sep : List Char} (dropped : sep.filter p = []) (t : List Char) :
    (joinLines sep t).filter p = t.filter p := by
  have run (inRun : Bool) : (joinLinesFrom sep inRun t).filter p = t.filter p := by
    induction t generalizing inRun with
    | nil => rfl
    | cons c rest ih =>
        rw [joinLinesFrom]
        split
        · next isBreak => cases inRun <;> simp [ih, dropped, breaks c isBreak]
        · simp [List.filter_cons, ih]
  exact run false

theorem filter_intercalate {p : Char → Bool} {sep : List Char} (dropped : sep.filter p = [])
    (parts : List (List Char)) : (sep.intercalate parts).filter p = parts.flatten.filter p := by
  induction parts with
  | nil => rfl
  | cons part rest ih =>
      cases rest with
      | nil => simp
      | cons next rest => simp [List.intercalate_cons_cons, dropped, ih]

theorem isLayout_of_isBreak {c : Char} (h : isBreak c = true) : isLayout c = true := by
  rcases isBreak_iff.mp h with rfl | rfl <;> rfl

theorem letters_joinLines {sep : List Char} (layout : letters sep = []) (t : List Char) :
    letters (joinLines sep t) = letters t :=
  filter_joinLines (fun _ isBreak => by rw [isLayout_of_isBreak isBreak]; rfl) layout t

theorem letters_intercalate {sep : List Char} (layout : letters sep = [])
    (parts : List (List Char)) : letters (sep.intercalate parts) = letters parts.flatten :=
  filter_intercalate layout parts

theorem letters_dropEndBreaks (t : List Char) : letters (dropEndBreaks t) = letters t := by
  have split : t = dropEndBreaks t ++ (t.reverse.takeWhile (· == '\n')).reverse := by
    rw [dropEndBreaks, dropEndWhile, ← List.reverse_append, List.takeWhile_append_dropWhile,
      List.reverse_reverse]
  have breaks : letters (t.reverse.takeWhile (· == '\n')).reverse = [] := by
    refine letters_eq_nil fun c member => ?_
    obtain rfl : c = '\n' := by
      simpa using List.mem_takeWhile_imp (List.mem_reverse.mp member)
    rfl
  conv_rhs => rw [split, letters_append, breaks, List.append_nil]

@[simp] theorem letters_endOnce (t : List Char) : letters (endOnce t) = letters t := by
  unfold endOnce
  split
  · simp [letters_dropEndBreaks, isLayout, isWhite]
  · rfl

@[simp] theorem letters_separator (style : Style) : letters style.separator = [] := by
  cases style with
  | mk quoted markup => cases quoted <;> rfl

/-! ## Texts -/

mutual
/-- The texts of a tree, behind one another. -/
def Node.texts : Node → List Char
  | .text t => t
  | .element _ _ children => textsIn children

def textsIn : List Node → List Char
  | [] => []
  | n :: rest => n.texts ++ textsIn rest
end

theorem textsIn_eq_flatMap (ns : List Node) : textsIn ns = ns.flatMap Node.texts := by
  induction ns with
  | nil => rfl
  | cons n rest ih => rw [textsIn, ih, List.flatMap_cons]

@[simp] theorem textsIn_append (ms ns : List Node) :
    textsIn (ms ++ ns) = textsIn ms ++ textsIn ns := by simp [textsIn_eq_flatMap]

theorem letters_textsIn_perm {ms ns : List Node} (h : ms.Perm ns) :
    (letters (textsIn ms)).Perm (letters (textsIn ns)) := by
  rw [textsIn_eq_flatMap, textsIn_eq_flatMap]
  exact (h.flatMap_right _).filter _

/-- A text keeps the letters of some nodes, except for those in some lost ones. -/
def Keeps (t : List Char) (all lost : List Node) : Prop :=
  (letters t ++ letters (textsIn lost)).Perm (letters (textsIn all))

namespace Keeps

variable {s t : List Char} {all all' lost lost' : List Node}

theorem nil : Keeps [] [] [] := List.Perm.nil

theorem congr (h : Keeps s all lost) (same : letters t = letters s) : Keeps t all lost := by
  rwa [Keeps, same]

theorem append (h : Keeps s all lost) (h' : Keeps t all' lost') :
    Keeps (s ++ t) (all ++ all') (lost ++ lost') := by
  refine List.perm_iff_count.mpr fun c => ?_
  have first := h.count_eq c
  have second := h'.count_eq c
  simp only [textsIn_append, letters_append, List.count_append] at first second ⊢
  omega

/-- If there are no letters at all, none are lost. -/
theorem blank (h : Keeps s all lost) (none : letters (textsIn all) = []) : Keeps [] all lost := by
  have empty : letters s ++ letters (textsIn lost) = [] := by
    rw [Keeps, none] at h
    exact h.eq_nil
  exact h.congr (List.append_eq_nil_iff.mp empty).1.symm

/-- What is among the nodes and among the lost ones may be taken out of both. -/
theorem cancel {both : List Node} (h : Keeps t (all ++ both) lost')
    (split : lost'.Perm (both ++ lost)) : Keeps t all lost := by
  refine List.perm_iff_count.mpr fun c => ?_
  have whole := h.count_eq c
  have parts := (letters_textsIn_perm split).count_eq c
  simp only [textsIn_append, letters_append, List.count_append] at whole parts ⊢
  omega

theorem of_children {tag : Tag} {attrs : Attributes} {children : List Node}
    (h : Keeps t children lost) : Keeps t [.element tag attrs children] lost := by
  simpa [Keeps, textsIn, Node.texts] using h

end Keeps

/-- What was written without a failure keeps the letters of some nodes, except for lost ones. -/
structure Written.Keeps (w : Written) (all lost : List Node) : Prop where
  ok : w.error = none
  text : Gemtext.Keeps w.text all lost

namespace Written.Keeps

variable {a b : Written} {all all' lost lost' : List Node}

theorem nothing : nothing.Keeps [] [] := ⟨rfl, .nil⟩

theorem andThen (ha : a.Keeps all lost) (hb : b.Keeps all' lost') :
    (a.andThen b).Keeps (all ++ all') (lost ++ lost') where
  ok := andThen_error_eq_none.mpr ⟨ha.ok, hb.ok⟩
  text := by
    rw [andThen_text_of_ok ha.ok]
    exact ha.text.append hb.text

theorem andThen_layout (ha : a.Keeps all lost) {t : List Char} (layout : letters t = []) :
    (a.andThen ⟨t, none⟩).Keeps all lost where
  ok := andThen_error_eq_none.mpr ⟨ha.ok, rfl⟩
  text := by
    rw [andThen_text_of_ok ha.ok]
    exact ha.text.congr (by simp [layout])

theorem of_children {tag : Tag} {attrs : Attributes} {children : List Node}
    (h : a.Keeps children lost) : a.Keeps [.element tag attrs children] lost :=
  ⟨h.ok, h.text.of_children⟩

end Written.Keeps

end Gemtext
