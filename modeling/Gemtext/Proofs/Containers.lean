import Gemtext.Proofs.Letters
import Gemtext.Proofs.QuotedText

/-! # Children of containers

What a container is composed to depends on its children in two ways besides their own texts. Raw
HTML right inside of it is trimmed, unless the container is a text element. And a separator stands
between all its children if one of them counts as a block, which headings and raw HTML do not.
-/

namespace Gemtext

open Text

/-! ## The texts of children -/

/-- The children of a node that are no lists. -/
def noLists (children : List Node) : List Node := children.filter fun c => !c.tagIs Tag.isList

theorem noLists_eq_self {children : List Node} (each : ∀ c ∈ children, c.tagIs Tag.isList = false) :
    noLists children = children :=
  List.filter_eq_self.mpr fun c member => by rw [each c member]; rfl

/-- The parts of a container are the texts of its children that are neither lists nor empty. -/
theorem composeParts_eq_mapM (style : Style) (inText : Bool) (children : List Node) :
    composeParts style inText children =
      ((noLists children).mapM (compose style inText)).map someParts := by
  induction children with
  | nil => rfl
  | cons c rest ih =>
      cases isList : c.tagIs Tag.isList with
      | true => simpa [composeParts, noLists, isList] using ih
      | false =>
          have kept : noLists (c :: rest) = c :: noLists rest := by simp [noLists, isList]
          rw [composeParts_cons isList, ih, kept, mapM_cons]
          cases compose style inText c with
          | error e => rfl
          | ok t =>
              cases (noLists rest).mapM (compose style inText) with
              | error e => rfl
              | ok texts => exact congrArg Except.ok (someParts_cons t texts)

theorem compose_of_children {tag : Tag} (container : tag.isContainer = true) {children : List Node}
    (held : ¬(tag = .image ∧ children = [])) (style : Style) (inText : Bool) (attrs : Attributes) :
    compose style inText (.element tag attrs children) =
      ((noLists children).mapM (compose style tag.isTextual)).map fun texts =>
        style.delimiter tag ++ joinParts style children (someParts texts) ++
          style.delimiter tag := by
  rw [compose_container container, if_neg held, composeParts_eq_mapM]
  cases (noLists children).mapM (compose style tag.isTextual) <;> rfl

/-! ## Inline content -/

/-- What shows of a text. -/
def ink (t : List Char) : List Char := t.filter fun c => !isWhite c

theorem ink_joinLines (t : List Char) : ink (joinLines [' '] t) = ink t :=
  filter_joinLines (fun c breaks => by rw [isWhite_of_isBreak breaks]; rfl) rfl t

theorem ink_trim (t : List Char) : ink (trim t) = ink t := by
  have dropped (s : List Char) : ink (s.dropWhile isWhite) = ink s := by
    induction s with
    | nil => rfl
    | cons c rest ih =>
        cases white : isWhite c with
        | true => simpa [ink, white] using ih
        | false => simp [white]
  rw [trim, dropEndWhile, ink, List.filter_reverse]
  change (ink _).reverse = _
  rw [dropped, ink, List.filter_reverse, List.reverse_reverse]
  exact dropped t

/-- How a child is composed depends on its container only if it is raw: then it is trimmed, unless
    the container is a text element. -/
theorem compose_outside_text (style : Style) (c : Node) :
    compose style false c =
      if c.hasTag .raw then (compose style true c).map trim else compose style true c := by
  cases c with
  | text t => rfl
  | element tag attrs children =>
      cases tag with
      | raw =>
          change composeRaw style false attrs _ = (composeRaw style true attrs _).map trim
          unfold composeRaw
          split
          · split <;> rfl
          · rfl
      | _ => simp [compose, Node.hasTag, Node.tagIs, Node.tag?]

/-- A child whose text has no whitespace at its ends is composed alike in all containers. -/
theorem compose_everywhere {style : Style} {c : Node}
    (whole : c.hasTag .raw = true → (compose style true c).map trim = compose style true c)
    (textual : Bool) : compose style textual c = compose style true c := by
  cases textual with
  | true => rfl
  | false =>
      rw [compose_outside_text]
      split
      · next isRaw => exact whole isRaw
      · rfl

theorem ink_compose (style : Style) (textual : Bool) (c : Node) :
    (compose style textual c).map ink = (compose style true c).map ink := by
  cases textual with
  | true => rfl
  | false =>
      rw [compose_outside_text]
      split
      · cases compose style true c with
        | error e => rfl
        | ok t => exact congrArg Except.ok (ink_trim t)
      · rfl

/-- Elements that hold inline content and have no marks of their own. -/
def Tag.holdsInline : Tag → Bool
  | paragraph | heading | entry | image => true
  | _ => false

theorem plainLine_of_inline {tag : Tag} (holds : tag.holdsInline = true) {children : List Node}
    (some : children ≠ []) (inText : Bool) (attrs : Attributes) :
    plainLine inText (.element tag attrs children) =
      ((noLists children).mapM (compose { markup := false } tag.isTextual)).map fun texts =>
        joinLines [' '] (joinParts { markup := false } children (someParts texts)) := by
  have container : tag.isContainer = true := by cases tag <;> first | rfl | cases holds
  rw [plainLine, compose_of_children container fun both => some both.2]
  cases (noLists children).mapM (compose { markup := false } tag.isTextual) with
  | error e => rfl
  | ok texts => simp [Except.map, Style.delimiter]

theorem ink_joinParts (markup : Bool) (children : List Node) (texts : List (List Char)) :
    ink (joinParts { markup := markup } children (someParts texts)) = (texts.map ink).flatten := by
  rw [joinParts]
  refine (filter_intercalate (by split <;> rfl) _).trans ?_
  rw [flatten_someParts, List.filter_flatten]
  rfl

/-- What shows of a line is what shows of the children, as they are composed in a text element. -/
theorem ink_plainLine {tag : Tag} (holds : tag.holdsInline = true) {children : List Node}
    (some : children ≠ []) (inText : Bool) (attrs : Attributes) :
    (plainLine inText (.element tag attrs children)).map ink =
      ((noLists children).mapM fun c => (compose { markup := false } true c).map ink).map
        List.flatten := by
  rw [plainLine_of_inline holds some, ← mapM_congr fun c _ => ink_compose _ tag.isTextual c,
    ← map_mapM]
  cases (noLists children).mapM (compose { markup := false } tag.isTextual) with
  | error e => rfl
  | ok texts => exact congrArg Except.ok ((ink_joinLines _).trans (ink_joinParts false ..))

/-- Inline content has the same text in two containers that are both text elements or both not, and
    in any two if no raw HTML right inside of them begins or ends with whitespace. In any case the
    texts differ in whitespace only, and both fail if one does. -/
theorem plainLine_inline {tag tag' : Tag} (holds : tag.holdsInline = true)
    (holds' : tag'.holdsInline = true) {children : List Node} (some : children ≠ [])
    (inText inText' : Bool) (attrs attrs' : Attributes) :
    (tag.isTextual = tag'.isTextual ∨
        (∀ c ∈ children, c.hasTag .raw = true →
          (compose { markup := false } true c).map trim = compose { markup := false } true c) →
      plainLine inText (.element tag attrs children) =
        plainLine inText' (.element tag' attrs' children)) ∧
    (plainLine inText (.element tag attrs children)).map ink =
      (plainLine inText' (.element tag' attrs' children)).map ink := by
  refine ⟨?_, by rw [ink_plainLine holds some, ink_plainLine holds' some]⟩
  rw [plainLine_of_inline holds some, plainLine_of_inline holds' some]
  rintro (same | whole)
  · rw [same]
  · have everywhere (textual : Bool) :
        (noLists children).mapM (compose { markup := false } textual) =
          (noLists children).mapM (compose { markup := false } true) :=
      mapM_congr fun c member =>
        compose_everywhere (whole c (List.mem_of_mem_filter member)) textual
    rw [everywhere tag.isTextual, everywhere tag'.isTextual]

/-- Raw HTML without whitespace at its ends, in a heading and in a cell. -/
theorem plainLine_inline_bold :
    let html (t : String) : Node :=
      .element .raw { format := some "html".toList } [.text t.toList]
    let children : List Node := [.text ['a'], html "<b>", .element .emphasis {} [.text ['b']],
      html "</b>", html "&amp;", .element .hardbreak {} [], .text ['c']]
    (∀ c ∈ children, c.hasTag .raw = true →
        (compose { markup := false } true c).map trim = compose { markup := false } true c) ∧
      plainLine false (.element .heading {} children) =
        plainLine false (.element .entry {} children) ∧
      plainLine false (.element .entry {} children) = .ok "ab& c".toList := by
  intro html children
  have whole : ∀ c ∈ children, c.hasTag .raw = true →
      (compose { markup := false } true c).map trim = compose { markup := false } true c := by
    decide +kernel
  exact ⟨whole, (plainLine_inline rfl rfl (by simp [children]) false false {} {}).1 (.inr whole),
    by decide +kernel⟩

/-- A break between two words keeps them apart in a text element, and is trimmed away in a cell or
    an image. -/
theorem cell_joins_words :
    let lineBreak : Node := .element .raw { format := some "html".toList } [.text "<br>".toList]
    let children : List Node := [.text ['a'], lineBreak, .text ['b']]
    plainLine false (.element .paragraph {} children) = .ok "a b".toList ∧
      plainLine false (.element .heading {} children) = .ok "a b".toList ∧
      plainLine false (.element .entry {} children) = .ok "ab".toList ∧
      plainLine false (.element .image {} children) = .ok "ab".toList := by
  decide +kernel

/-! ## Blocks -/

theorem length_intercalate (sep : List Char) (parts : List (List Char)) :
    (sep.intercalate parts).length = parts.flatten.length + (parts.length - 1) * sep.length := by
  induction parts with
  | nil => simp
  | cons t rest ih =>
      cases rest with
      | nil => simp
      | cons next rest =>
          rw [List.intercalate_cons_cons, List.length_append, List.length_append, ih]
          simp only [List.flatten_cons, List.length_append, List.length_cons,
            Nat.add_sub_cancel, Nat.succ_mul]
          omega

/-- Leaving the separator out is seen as soon as there are two parts. -/
theorem intercalate_eq_flatten {sep : List Char} (some : sep ≠ []) {parts : List (List Char)} :
    parts.flatten = sep.intercalate parts ↔ parts.length ≤ 1 := by
  constructor
  · intro same
    have length := congrArg List.length same
    rw [length_intercalate] at length
    have none : (parts.length - 1) * sep.length = 0 := by omega
    rcases Nat.mul_eq_zero.mp none with few | empty
    · omega
    · exact absurd (List.length_eq_zero_iff.mp empty) some
  · intro few
    match parts, few with
    | [], _ => rfl
    | [t], _ => simp

theorem Style.separator_ne_nil (style : Style) : style.separator ≠ [] := by
  unfold separator
  split <;> simp

/-- The blocks besides lists of which items, footnotes and quotes are built. -/
def Tag.fillsContainer : Tag → Bool
  | paragraph | heading | literalBlock | blockQuote | raw => true
  | _ => false

/-- Blocks that bring a separator into their container. -/
def Node.separates (n : Node) : Bool :=
  n.hasTag .paragraph || n.hasTag .literalBlock || n.hasTag .blockQuote

theorem separates_of_fills {c : Node} (fills : c.tagIs Tag.fillsContainer = true) :
    c.tagIs Tag.isList = false ∧ c.tagIs Tag.isBlock = c.separates := by
  cases c with
  | text t => cases fills
  | element tag attrs children =>
      cases tag with
      | paragraph | heading | literalBlock | blockQuote | raw => exact ⟨rfl, rfl⟩
      | _ => cases fills

/-- The text of a container is made of the texts of its blocks that are not empty. They are joined
    by the separator of the context if one of the blocks is a paragraph, a literal block or a quote.
    Otherwise nothing stands between them, so that they run together if there are two. -/
theorem compose_blocks {tag : Tag} (holds : tag = .listItem ∨ tag = .footnote ∨ tag = .blockQuote)
    {children : List Node} (blocks : ∀ c ∈ children, c.tagIs Tag.fillsContainer = true)
    (style : Style) (inText : Bool) (attrs : Attributes) :
    (compose style inText (.element tag attrs children) =
      (children.mapM (compose style false)).map fun texts =>
        (if children.any Node.separates then style.separator else []).intercalate
          (someParts texts)) ∧
    ∀ texts, children.mapM (compose style false) = .ok texts →
      (compose style inText (.element tag attrs children) =
          .ok (style.separator.intercalate (someParts texts)) ↔
        children.any Node.separates = true ∨ (someParts texts).length ≤ 1) := by
  have noLists : noLists children = children :=
    noLists_eq_self fun c member => (separates_of_fills (blocks c member)).1
  have separated : (children.any fun c => !c.tagIs Tag.isList && c.tagIs Tag.isBlock) =
      children.any Node.separates := by
    rw [Bool.eq_iff_iff, List.any_eq_true, List.any_eq_true]
    refine exists_congr fun c => and_congr_right fun member => ?_
    obtain ⟨noList, same⟩ := separates_of_fills (blocks c member)
    rw [noList, same]
    rfl
  have composed : compose style inText (.element tag attrs children) =
      (children.mapM (compose style false)).map fun texts =>
        (if children.any Node.separates then style.separator else []).intercalate
          (someParts texts) := by
    have element : tag.isContainer = true ∧ tag ≠ .image ∧ tag.isTextual = false ∧
        tag.delimiter = [] := by
      rcases holds with rfl | rfl | rfl <;> simp [Tag.isContainer, Tag.isTextual, Tag.delimiter]
    obtain ⟨container, noImage, textual, bare⟩ := element
    rw [compose_of_children container fun both => noImage both.1, noLists, textual]
    simp only [Style.delimiter, bare, ite_self, List.nil_append, List.append_nil, joinParts,
      separated]
  refine ⟨composed, fun texts each => ?_⟩
  rw [composed, each]
  simp only [Except.map, Except.ok.injEq]
  cases children.any Node.separates with
  | true => simp
  | false => simpa [intercalate_nil] using intercalate_eq_flatten style.separator_ne_nil

/-- A heading between a quote and raw HTML, in an item and in a quote. -/
theorem compose_blocks_heading :
    let children : List Node :=
      [.element .blockQuote {} [.element .paragraph {} [.text ['a']]],
        .element .paragraph {} [], .element .heading { level := some 1 } [.text ['b']],
        .element .raw { format := some "html".toList } [.text "<p>c</p>".toList]]
    (∀ c ∈ children, c.tagIs Tag.fillsContainer = true) ∧
      children.mapM (compose {} false) = .ok [['a'], [], ['b'], ['c']] ∧
      compose {} false (.element .listItem {} children) =
        .ok ([' '].intercalate (someParts [['a'], [], ['b'], ['c']])) ∧
      compose { quoted := true } false (.element .blockQuote {} children) =
        .ok "a\n> b\n> c".toList := by
  intro children
  have blocks : ∀ c ∈ children, c.tagIs Tag.fillsContainer = true := by decide
  have texts : children.mapM (compose {} false) = .ok [['a'], [], ['b'], ['c']] := by
    decide +kernel
  exact ⟨blocks, texts, ((compose_blocks (.inl rfl) blocks {} false {}).2 _ texts).mpr (.inl rfl),
    by decide +kernel⟩

/-- Headings and raw HTML run together where they are alone in an item, a footnote or a quote. -/
theorem headings_run_together :
    let headings : List Node := [.element .heading { level := some 1 } [.text ['a']],
      .element .heading { level := some 1 } [.text ['b']]]
    let fragment (t : String) : Node :=
      .element .raw { format := some "html".toList } [.text t.toList]
    compose {} false (.element .listItem {} headings) = .ok "ab".toList ∧
      compose {} false (.element .footnote {} headings) = .ok "ab".toList ∧
      compose { quoted := true } false (.element .blockQuote {} headings) = .ok "ab".toList ∧
      compose {} false (.element .listItem {} [fragment "<p>a</p>", fragment "<p>b</p>"]) =
        .ok "ab".toList := by
  decide +kernel

end Gemtext
