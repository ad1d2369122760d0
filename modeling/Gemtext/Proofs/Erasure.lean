import Gemtext.Proofs.SkippedLabels

/-! # Erased styles

Composing without marks is composing, with marks, a tree in which nothing is left to mark: each
styled span is a plain span, and each script a plain span that holds its source on one line. So two
trees that are the same when their styles are erased have the same plain line.
-/

namespace Gemtext

open Text

/-- Spans that are composed between marks of their own. -/
def Tag.isStyled : Tag → Bool
  | literal | emphasis | strong | strikethrough => true
  | _ => false

/-- Styled spans and scripts are no more lists or blocks than plain spans are. -/
theorem Tag.inline_of_style {tag : Tag} (span : tag.isStyled = true ∨ tag.isScript = true) :
    tag.isList = Tag.inline.isList ∧ tag.isBlock = Tag.inline.isBlock := by
  revert span
  cases tag <;> decide

namespace Node

mutual
/-- A tree without styles. Raw content and literal blocks stay as they are, with all that is inside
    them. -/
def erased : Node → Node
  | text t => text t
  | element tag attrs children =>
    if tag.isStyled then element .inline {} (erasedAll children)
    else if tag.isScript then
      element .inline {} [text (joinLines [' '] (element tag attrs children).source)]
    else if tag = .raw ∨ tag = .literalBlock then element tag attrs children
    else element tag attrs (erasedAll children)

def erasedAll : List Node → List Node
  | [] => []
  | n :: rest => n.erased :: erasedAll rest
end

theorem erasedAll_eq_map (ns : List Node) : erasedAll ns = ns.map erased := by
  induction ns with
  | nil => rfl
  | cons n rest ih => rw [erasedAll, ih, List.map_cons]

theorem erased_styled {tag : Tag} (styled : tag.isStyled = true) (attrs : Attributes)
    (children : List Node) :
    (element tag attrs children).erased = element .inline {} (children.map erased) := by
  rw [erased, if_pos styled, erasedAll_eq_map]

theorem erased_plain {tag : Tag} (plain : tag.isStyled = false) (container : tag.isContainer = true)
    (attrs : Attributes) (children : List Node) :
    (element tag attrs children).erased = element tag attrs (children.map erased) := by
  rw [erased, erasedAll_eq_map, if_neg (by simp [plain])]
  cases tag <;> first | rfl | cases container

/-- A tag that says nothing about styles is the same after erasing. -/
theorem tagIs_erased {p : Tag → Bool}
    (blind : ∀ {tag : Tag}, tag.isStyled = true ∨ tag.isScript = true → p tag = p .inline)
    (n : Node) : n.erased.tagIs p = n.tagIs p := by
  cases n with
  | text t => rfl
  | element tag attrs children =>
      rw [erased]
      split
      · next styled => exact (blind (.inl styled)).symm
      · split
        · next script => exact (blind (.inr script)).symm
        · split <;> rfl

@[simp] theorem isList_erased (n : Node) : n.erased.tagIs Tag.isList = n.tagIs Tag.isList :=
  tagIs_erased (fun span => (Tag.inline_of_style span).1) n

@[simp] theorem isBlock_erased (n : Node) : n.erased.tagIs Tag.isBlock = n.tagIs Tag.isBlock :=
  tagIs_erased (fun span => (Tag.inline_of_style span).2) n

end Node

/-! ## Composition -/

section Compose

open Node

theorem joinParts_erased (quoted : Bool) (children : List Node) (parts : List (List Char)) :
    joinParts { quoted := quoted } (children.map erased) parts =
      joinParts { quoted := quoted, markup := false } children parts := by
  simp only [joinParts, List.any_map, Function.comp_def, isList_erased, isBlock_erased]
  rfl

theorem composeParts_erased {quoted inText : Bool} {children : List Node}
    (ih : ∀ c ∈ children, compose { quoted := quoted } inText c.erased =
      compose { quoted := quoted, markup := false } inText c) :
    composeParts { quoted := quoted } inText (children.map erased) =
      composeParts { quoted := quoted, markup := false } inText children := by
  induction children with
  | nil => rfl
  | cons c rest tail =>
      rw [List.map_cons, composeParts, composeParts, isList_erased, ih c List.mem_cons_self,
        tail fun m member => ih m (List.mem_cons_of_mem c member)]

/-- The text of a plain span that holds a single line. -/
theorem compose_line {t : List Char} (oneLine : ∀ c ∈ t, isBreak c = false) (style : Style)
    (inText : Bool) : compose style inText (.element .inline {} [.text t]) = .ok t := by
  have plain : style.delimiter .inline = [] := by simp [Style.delimiter, Tag.delimiter]
  have unseparated (parts : List (List Char)) : joinParts style [.text t] parts = parts.flatten := by
    rw [← intercalate_nil]
    rfl
  rw [compose_container rfl, if_neg (by simp), composeParts_cons rfl, compose,
    joinLines_eq_self oneLine]
  simp only [composeParts, Except.bind, Except.map, List.append_nil, plain, unseparated,
    flatten_someParts, List.flatten_cons, List.flatten_nil, List.nil_append]

/-- Composing without marks is composing the erased tree. -/
theorem compose_erased (quoted inText : Bool) (n : Node) :
    compose { quoted := quoted } inText n.erased =
      compose { quoted := quoted, markup := false } inText n := by
  induction n using Node.rec_strong generalizing inText with
  | text t => rfl
  | element tag attrs children ih =>
      have parts (inText : Bool) := composeParts_erased fun c member => ih c member inText
      have joined := joinParts_erased quoted children
      have bare (tag : Tag) : Style.delimiter { quoted := quoted, markup := false } tag = [] := rfl
      cases tag with
      | literal | emphasis | strong | strikethrough =>
          rw [erased_styled rfl, compose_container rfl, compose_container rfl]
          simp only [reduceCtorEq, false_and, if_false, parts, joined, bare]
          rfl
      | subscript | superscript =>
          exact compose_line (joinLines_no_break (by simp [isBreak]) _) _ inText
      | footnoteReference | hardbreak | raw | literalBlock => rfl
      | _ =>
          rw [erased_plain rfl rfl, compose_container rfl, compose_container rfl]
          simp only [List.map_eq_nil_iff, parts, joined, bare]
          rfl

end Compose

/-- Composing without marks gives what composing the erased tree with marks gives, a text or an
    error, inside of a quote and outside of one. So trees that are the same without their styles
    have the same plain line. -/
theorem compose_unmarked (inText : Bool) (n : Node) :
    (∀ quoted, compose { quoted := quoted, markup := false } inText n =
      compose { quoted := quoted, markup := true } inText n.erased) ∧
    ∀ m : Node, m.erased = n.erased → plainLine inText m = plainLine inText n := by
  refine ⟨fun quoted => (compose_erased quoted inText n).symm, fun m same => ?_⟩
  rw [plainLine, plainLine, ← compose_erased, ← compose_erased, same]

/-- A heading with an empty span inside another one, code and a script, and the same heading in
    other styles. -/
theorem compose_unmarked_heading :
    let heading (outer inner code script : Tag) (line : String) : Node :=
      .element .heading { level := some 1 }
        [.element outer {} [.element inner {} []], .element code {} [.text ['a']],
          .element script {} [.text line.toList]]
    let styled := heading .emphasis .strong .literal .subscript "b\nc"
    let other := heading .strikethrough .inline .strong .superscript "b\r\n\nc"
    styled.erased = other.erased ∧ plainLine false styled = plainLine false other ∧
      compose {} false styled = .ok "******\x60a\x60_\x7bb c\x7d".toList ∧
      compose {} false other = .ok "~~~~**a**^(b c)".toList ∧
      plainLine false other = .ok "ab c".toList := by
  intro heading styled other
  have same : styled.erased = other.erased := by decide
  exact ⟨same, (compose_unmarked false other).2 styled same, by decide +kernel, by decide +kernel,
    by decide +kernel⟩

end Gemtext
