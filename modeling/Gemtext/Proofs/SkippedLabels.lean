import Mathlib.Data.List.Infix
import Gemtext.Convert
import Gemtext.Proofs.Containers
import Gemtext.Proofs.LinkPlaces
import Gemtext.Proofs.Misshapen

/-! # Labels of skipped links

A link with an empty destination has no line of its own. All that is left of it is its label in the
text of its block. Two things take the label out of there. A block that is nothing but links leaves
out its text, whether its links have lines or not. And the content of a subscript or superscript is
its source, which is not composed as a label is.
-/

namespace Gemtext

open Text

/-! ## Words of a text -/

namespace Text

/-- Every word that occurs in one text occurs in the other. -/
def WordsIn (s t : List Char) : Prop :=
  ∀ word, (∀ c ∈ word, isWhite c = false) → word <:+: s → word <:+: t

theorem WordsIn.of_occurs {s t : List Char} (h : s <:+: t) : WordsIn s t :=
  fun _ _ inside => inside.trans h

theorem WordsIn.trans {s t u : List Char} (h : WordsIn s t) (h' : WordsIn t u) : WordsIn s u :=
  fun word isWord inside => h' word isWord (h word isWord inside)

section Word

variable {word : List Char} (isWord : ∀ c ∈ word, isWhite c = false)

include isWord

theorem prefix_white_cons {c : Char} (white : isWhite c = true) {t : List Char} :
    word <+: c :: t ↔ word = [] := by
  cases word with
  | nil => simp
  | cons d rest =>
      have other : d ≠ c := by
        rintro rfl
        cases (isWord d List.mem_cons_self).symm.trans white
      simp [List.cons_prefix_cons, other]

theorem infix_white_cons {c : Char} (white : isWhite c = true) {t : List Char} :
    word <:+: c :: t ↔ word <:+: t := by
  rw [List.infix_cons_iff, prefix_white_cons isWord white]
  exact or_iff_right_of_imp fun empty => empty ▸ List.nil_infix

theorem infix_of_blank {t : List Char} (blank : isBlank t = true) : word <:+: t ↔ word = [] := by
  induction t with
  | nil => exact List.infix_nil
  | cons c rest ih =>
      obtain ⟨white, behind⟩ := Bool.and_eq_true_iff.mp blank
      rw [infix_white_cons isWord white, ih behind]

end Word

theorem prefix_joinLines {word : List Char} (isWord : ∀ c ∈ word, isWhite c = false)
    (t : List Char) : word <+: joinLinesFrom [' '] false t ↔ word <+: t := by
  induction t generalizing word with
  | nil => rfl
  | cons c rest ih =>
      cases breaks : isBreak c with
      | true =>
          rw [prefix_white_cons isWord (isWhite_of_isBreak breaks), joinLinesFrom, if_pos breaks]
          exact prefix_white_cons isWord rfl
      | false =>
          cases word with
          | nil => simp
          | cons d word =>
              have behind := ih (List.forall_mem_cons.mp isWord).2
              simp [joinLinesFrom, breaks, List.cons_prefix_cons, behind]

/-- Joining lines with blanks neither takes a word apart nor makes a new one. -/
theorem infix_joinLines {word : List Char} (isWord : ∀ c ∈ word, isWhite c = false)
    (t : List Char) : word <:+: joinLines [' '] t ↔ word <:+: t := by
  have within (inRun : Bool) : word <:+: joinLinesFrom [' '] inRun t ↔ word <:+: t := by
    induction t generalizing inRun with
    | nil => rfl
    | cons c rest ih =>
        cases breaks : isBreak c with
        | true =>
            rw [infix_white_cons isWord (isWhite_of_isBreak breaks), joinLinesFrom, if_pos breaks]
            cases inRun with
            | true => exact ih true
            | false => exact (infix_white_cons isWord rfl).trans (ih true)
        | false =>
            have step : joinLinesFrom [' '] false (c :: rest) =
                c :: joinLinesFrom [' '] false rest := by simp [joinLinesFrom, breaks]
            have front := prefix_joinLines isWord (c :: rest)
            rw [step] at front
            rw [joinLinesFrom, if_neg (by simp [breaks]), List.infix_cons_iff,
              List.infix_cons_iff, front, ih false]
  exact within false

theorem wordsIn_joinLines (t : List Char) : WordsIn t (joinLines [' '] t) :=
  fun _ isWord => (infix_joinLines isWord t).mpr

theorem joinLines_wordsIn (t : List Char) : WordsIn (joinLines [' '] t) t :=
  fun _ isWord => (infix_joinLines isWord t).mp

theorem trim_occurs (t : List Char) : trim t <:+: t :=
  (trim_isPrefix t).isInfix.trans (List.dropWhile_suffix _).isInfix

theorem infix_intercalate {sep t : List Char} {parts : List (List Char)} (member : t ∈ parts) :
    t <:+: sep.intercalate parts := by
  induction parts with
  | nil => cases member
  | cons first rest ih =>
      cases rest with
      | nil =>
          obtain rfl := List.mem_singleton.mp member
          simp
      | cons next rest =>
          rw [List.intercalate_cons_cons]
          rcases List.mem_cons.mp member with rfl | behind
          · rw [List.append_assoc]
            exact (List.prefix_append t _).isInfix
          · exact (ih behind).trans (List.suffix_append _ _).isInfix

end Text

theorem wordsIn_blockOf (t : List Char) : WordsIn t (blockOf t) := by
  intro word isWord inside
  unfold blockOf
  split
  · next blank => exact (infix_of_blank isWord blank).mp inside ▸ List.nil_infix
  · exact inside.trans (List.prefix_append t _).isInfix

theorem infix_itemLine (ordered : Bool) (level number : Nat) (isTerm : Bool) (children : List Node)
    (t : List Char) : t <:+: itemLine ordered level number isTerm children t := by
  refine List.IsInfix.trans ?_ (List.suffix_append _ _).isInfix
  split
  · next empty => exact empty.1 ▸ List.nil_infix
  · exact List.infix_append _ t _

/-! ## What shows in a composed text -/

namespace Node

/-- The nodes that are composed as part of the text of a node. -/
inductive Shows : Node → Node → Prop where
  | self (n : Node) : n.Shows n
  | inside {tag : Tag} {attrs : Attributes} {children : List Node} {c m : Node} :
      tag.isContainer = true → c ∈ children → c.tagIs Tag.isList = false → c.Shows m →
      Shows (.element tag attrs children) m

/-- A node shows what it holds with its whole text. -/
theorem Shows.compose {n m : Node} (h : n.Shows m) {style : Style} {inText : Bool} {t : List Char}
    (composed : compose style inText n = .ok t) :
    ∃ inText s, Gemtext.compose style inText m = .ok s ∧ s <:+: t := by
  induction h generalizing inText t with
  | self n => exact ⟨inText, t, composed, List.infix_rfl⟩
  | @inside tag attrs children c m container member noList _ ih =>
      have held : ¬(tag = .image ∧ children = []) := fun both =>
        List.not_mem_nil (both.2 ▸ member)
      rw [compose_of_children container held] at composed
      obtain ⟨texts, each, rfl⟩ := map_eq_ok.mp composed
      obtain ⟨u, among, part⟩ :=
        mem_of_mapM each (List.mem_filter.mpr ⟨member, by simp [noList]⟩)
      obtain ⟨inText, s, shown, within⟩ := ih part
      refine ⟨inText, s, shown, within.trans (List.IsInfix.trans ?_ (List.infix_append _ _ _))⟩
      cases u with
      | nil => exact List.nil_infix
      | cons d rest => exact infix_intercalate (List.mem_filter.mpr ⟨among, rfl⟩)

end Node

/-! ## Inline content -/

/-- Inline elements whose text is made of their children. -/
def Tag.isSpan : Tag → Bool
  | literal | emphasis | strong | strikethrough | inline | reference | image => true
  | _ => false

/-- Inline elements whose text is their source. -/
def Tag.isScript : Tag → Bool
  | subscript | superscript => true
  | _ => false

/-- Inline elements that hold nothing but text. -/
def Tag.isMark : Tag → Bool
  | raw | footnoteReference | hardbreak => true
  | _ => false

namespace Node

mutual
/-- Whether a tree is inline content: texts, spans, scripts and marks. -/
def isInline : Node → Bool
  | text _ => true
  | element tag _ children =>
    if tag.isMark then children.all fun c => c.tag?.isNone
    else (tag.isSpan || tag.isScript) && allInline children

def allInline : List Node → Bool
  | [] => true
  | n :: rest => n.isInline && allInline rest
end

theorem allInline_iff {ns : List Node} : allInline ns = true ↔ ∀ n ∈ ns, n.isInline = true := by
  induction ns with
  | nil => simp [allInline]
  | cons n rest ih => rw [allInline, Bool.and_eq_true, ih, List.forall_mem_cons]

def isInlineParagraph (n : Node) : Bool := n.hasTag .paragraph && allInline n.children

def isInlineItem (n : Node) : Bool := n.hasTag .listItem && n.children.all isInlineParagraph

/-- A paragraph of inline content, or a list of such paragraphs. -/
def isInlineBlock (n : Node) : Bool :=
  n.isInlineParagraph || n.tagIs Tag.isList && n.children.all isInlineItem

/-- Whether a paragraph or a list is nothing but links. -/
def isLinksOnly (n : Node) : Bool :=
  if n.hasTag .paragraph then isLinksOnlyParagraph n.children else isLinksOnlyList n.children

/-- Whether a script stands on the way to what stands at a path. -/
def inScript : Path → Node → Bool
  | [], n => n.tagIs Tag.isScript
  | i :: path, n => n.tagIs Tag.isScript || n.children[i]?.any (inScript path)

theorem inScript_child {n c : Node} {i : Nat} {path : Path} (located : n.children[i]? = some c)
    (apart : n.inScript (i :: path) = false) : c.inScript path = false := by
  rw [inScript, located, Option.any_some] at apart
  exact (Bool.or_eq_false_iff.mp apart).2

theorem inScript_of_isScript {tag : Tag} (script : tag.isScript = true) (attrs : Attributes)
    (children : List Node) (path : Path) :
    (element tag attrs children).inScript path = true := by
  cases path <;> simp [inScript, tagIs, tag?, script]

/-- Each link in a node that stands in no script shows in its text. -/
def ShowsLinks (n : Node) : Prop :=
  ∀ path link, n.at? path = some link → link.tagIs Tag.isLink = true →
    n.inScript path = false → n.Shows link

theorem ShowsLinks.of_children {tag : Tag} (container : tag.isContainer = true)
    {attrs : Attributes} {children : List Node}
    (each : ∀ c ∈ children, c.tagIs Tag.isList = false ∧ c.ShowsLinks) :
    (element tag attrs children).ShowsLinks := by
  intro path link located isLink apart
  cases path with
  | nil => exact Option.some.inj located ▸ .self _
  | cons i path =>
      obtain ⟨c, here, below⟩ := Option.bind_eq_some_iff.mp located
      have member : c ∈ children := List.mem_of_getElem? here
      obtain ⟨noList, shows⟩ := each c member
      exact .inside container member noList
        (shows path link below isLink (inScript_child here apart))

theorem not_list_of_isInline {n : Node} (inline : n.isInline = true) :
    n.tagIs Tag.isList = false := by
  cases n with
  | text t => rfl
  | element tag attrs children => cases tag <;> first | rfl | cases inline

theorem isContainer_of_isSpan {tag : Tag} (span : tag.isSpan = true) : tag.isContainer = true := by
  cases tag <;> first | rfl | cases span

theorem not_link_of_text {t : List Char} {path : Path} {link : Node}
    (located : (text t).at? path = some link) : link.tagIs Tag.isLink = false := by
  cases path with
  | nil => exact Option.some.inj located ▸ rfl
  | cons i path => cases located

theorem showsLinks_of_isInline {n : Node} (inline : n.isInline = true) : n.ShowsLinks := by
  induction n using rec_strong with
  | text t =>
      exact fun path link located isLink _ => absurd isLink (by simp [not_link_of_text located])
  | element tag attrs children ih =>
      rw [isInline] at inline
      split at inline
      · -- What stands in a mark is a text, and no link.
        intro path link located isLink _
        cases path with
        | nil => exact Option.some.inj located ▸ .self _
        | cons i path =>
            obtain ⟨c, here, below⟩ := Option.bind_eq_some_iff.mp located
            have bare := List.all_eq_true.mp inline c (List.mem_of_getElem? here)
            cases c with
            | text t => exact absurd isLink (by simp [not_link_of_text below])
            | element => cases bare
      · obtain ⟨kind, inside⟩ := Bool.and_eq_true_iff.mp inline
        have each := allInline_iff.mp inside
        rcases Bool.or_eq_true_iff.mp kind with span | script
        · exact .of_children (isContainer_of_isSpan span) fun c member =>
            ⟨not_list_of_isInline (each c member), ih c member (each c member)⟩
        · intro path link _ _ apart
          cases apart.symm.trans (inScript_of_isScript script attrs children path)

theorem showsLinks_of_isInlineParagraph {n : Node} (paragraph : n.isInlineParagraph = true) :
    n.ShowsLinks := by
  obtain ⟨isParagraph, inside⟩ := Bool.and_eq_true_iff.mp paragraph
  obtain ⟨attrs, children, rfl⟩ := eq_element_of_hasTag isParagraph
  have each := allInline_iff.mp inside
  exact .of_children rfl fun c member =>
    ⟨not_list_of_isInline (each c member), showsLinks_of_isInline (each c member)⟩

theorem showsLinks_of_isInlineItem {n : Node} (item : n.isInlineItem = true) : n.ShowsLinks := by
  obtain ⟨isItem, inside⟩ := Bool.and_eq_true_iff.mp item
  obtain ⟨attrs, children, rfl⟩ := eq_element_of_hasTag isItem
  refine .of_children rfl fun c member => ?_
  have paragraph := List.all_eq_true.mp inside c member
  refine ⟨?_, showsLinks_of_isInlineParagraph paragraph⟩
  obtain ⟨attrs, children, rfl⟩ := eq_element_of_hasTag (Bool.and_eq_true_iff.mp paragraph).1
  rfl

end Node

/-! ## Links without a line -/

theorem Node.kind_of_leadsNowhere {link : Node} (nowhere : link.leadsNowhere = true) :
    link.hasTag .image = true ∨ link.hasTag .reference = true := by
  cases link with
  | text t => cases nowhere
  | element tag attrs children =>
      cases tag with
      | image => exact .inl rfl
      | reference => exact .inr rfl
      | _ => cases nowhere

theorem linkLine_of_mem {d : Document} {links : List Node} {lines : List (List Char)}
    (ok : linkLines d links = .ok lines) {link : Node} (member : link ∈ links) :
    ∃ line, linkLine d link = .ok line := by
  induction links generalizing lines with
  | nil => cases member
  | cons other rest ih =>
      rw [linkLines] at ok
      cases first : linkLine d other with
      | error e => simp [first] at ok
      | ok line =>
          simp only [first] at ok
          obtain ⟨more, behind, _⟩ := map_eq_ok.mp ok
          rcases List.mem_cons.mp member with rfl | inside
          · exact ⟨line, first⟩
          · exact ih behind inside

theorem linkLine_of_linkGroup {d : Document} {links : List Node} {kind : Tag}
    (ok : (linkGroup d links kind).error = none) {link : Node} (member : link ∈ links)
    (isKind : link.hasTag kind = true) : ∃ line, linkLine d link = .ok line := by
  unfold linkGroup at ok
  cases lines : linkLines d (links.filter (·.hasTag kind)) with
  | error e => simp [lines, Except.map, Written.ofExcept, Written.fail] at ok
  | ok each => exact linkLine_of_mem lines (List.mem_filter.mpr ⟨member, isKind⟩)

/-- A link without a destination in a block that is written has a label, and no line. -/
theorem linkLine_of_leadsNowhere {d : Document} {n link : Node} (ok : (linkBlock d n).error = none)
    (member : link ∈ n.links) (nowhere : link.leadsNowhere = true) :
    linkLine d link = .ok none ∧ ∃ t, label false link = .ok t := by
  have isLink := (Node.mem_links.mp member).choose_spec.2
  obtain ⟨line, written⟩ : ∃ line, linkLine d link = .ok line := by
    unfold linkBlock at ok
    cases listed : d.links n with
    | error e => simp [listed, Written.fail] at ok
    | ok links =>
        simp only [listed, Written.andThen_error_eq_none] at ok
        have inside := Document.subset_follow listed member
        rcases Node.kind_of_leadsNowhere nowhere with isImage | isReference
        · exact linkLine_of_linkGroup ok.1.2 inside isImage
        · exact linkLine_of_linkGroup ok.2 inside isReference
  have none := linkLine_spec isLink written
  rw [if_pos nowhere] at none
  refine ⟨none ▸ written, ?_⟩
  have noNote : ¬ link.hasTag .footnoteReference = true := by
    intro isNote
    simp [Node.leadsNowhere, Node.destination?_note isNote] at nowhere
  rw [linkLine, if_neg noNote] at written
  cases labelled : label false link with
  | error e => simp [labelled] at written
  | ok t => exact ⟨t, rfl⟩

theorem label_wordsIn {link : Node} (noRaw : link.hasTag .raw = false) {inText : Bool}
    {s t : List Char} (composed : compose {} inText link = .ok s)
    (labelled : label false link = .ok t) : WordsIn t s := by
  have everywhere (textual : Bool) : compose {} textual link = compose {} true link :=
    compose_everywhere (fun isRaw => absurd isRaw (by simp [noRaw])) textual
  rw [everywhere] at composed
  rw [label, everywhere, composed] at labelled
  obtain rfl := Except.ok.inj labelled
  exact (WordsIn.of_occurs (trim_occurs _)).trans (joinLines_wordsIn s)

/-! ## Written blocks -/

theorem listItem_occurs {ordered : Bool} {level number : Nat} {items : List Node}
    (ok : (listItems ordered level number items).error = none) {item : Node}
    (member : item ∈ items) : ∃ number', (listItem ordered level number' item).error = none ∧
      (listItem ordered level number' item).text <:+:
        (listItems ordered level number items).text := by
  induction items generalizing number with
  | nil => cases member
  | cons first rest ih =>
      rw [listItems] at ok ⊢
      obtain ⟨here, behind⟩ := Written.andThen_error_eq_none.mp ok
      rw [Written.andThen_text_of_ok here]
      rcases List.mem_cons.mp member with rfl | later
      · exact ⟨number, here, (List.prefix_append _ _).isInfix⟩
      · obtain ⟨number', written, within⟩ := ih behind later
        exact ⟨number', written, within.trans (List.suffix_append _ _).isInfix⟩

theorem listItem_words {ordered : Bool} {level number : Nat} {item link : Node}
    (ok : (listItem ordered level number item).error = none) (shown : item.Shows link)
    (isLink : link.tagIs Tag.isLink = true) :
    ∃ inText s, compose {} inText link = .ok s ∧
      WordsIn s (listItem ordered level number item).text := by
  cases item with
  | text t =>
      cases shown
      cases isLink
  | element tag attrs children =>
      rw [listItem] at ok ⊢
      by_cases isItem : tag = .listItem
      · subst isItem
        have some : children.isEmpty = false := by
          cases shown with
          | self => cases isLink
          | inside _ member => exact List.isEmpty_eq_false_iff_exists_mem.mpr ⟨_, member⟩
        simp only [ne_eq, not_true_eq_false, if_false, some, Bool.false_eq_true] at ok ⊢
        have head := (Written.andThen_error_eq_none.mp ok).1
        rw [Written.andThen_text_of_ok head]
        simp only [itemHead] at head ⊢
        cases composed : compose {} false (.element .listItem attrs children) with
        | error e => simp [composed] at head
        | ok t =>
            obtain ⟨inText, s, part, within⟩ := shown.compose composed
            refine ⟨inText, s, part, ?_⟩
            exact (WordsIn.of_occurs within).trans <| (wordsIn_joinLines t).trans <|
              .of_occurs <| (infix_itemLine ..).trans (List.prefix_append _ _).isInfix
      · simp [isItem, Written.fail] at ok

theorem Tag.not_link_of_isList {tag : Tag} (isList : tag.isList = true) : tag.isLink = false := by
  cases tag <;> first | rfl | cases isList

/-- What a block writes in front of its links has the words of each link that is in no script. -/
def ProseShows (block : Node) (prose : Written) : Prop :=
  ∀ path link, block.at? path = some link → link.tagIs Tag.isLink = true →
    block.inScript path = false → ∃ inText s, compose {} inText link = .ok s ∧
      WordsIn s prose.text

theorem paragraph_shows {block : Node} (paragraph : block.isInlineParagraph = true)
    (ok : (Written.ofExcept ((compose {} false block).map blockOf)).error = none) :
    ProseShows block (.ofExcept ((compose {} false block).map blockOf)) := by
  intro path link located isLink apart
  cases composed : compose {} false block with
  | error e => simp [composed, Except.map, Written.ofExcept, Written.fail] at ok
  | ok t =>
      have shown := Node.showsLinks_of_isInlineParagraph paragraph path link located isLink apart
      obtain ⟨inText, s, part, within⟩ := shown.compose composed
      exact ⟨inText, s, part, (WordsIn.of_occurs within).trans (wordsIn_blockOf t)⟩

theorem list_shows {list : Node} (isList : list.tagIs Tag.isList = true)
    (items : ∀ item ∈ list.children, item.isInlineItem = true)
    (ok : (innerList 0 list).error = none) :
    ProseShows list ((innerList 0 list).andThen ⟨['\n'], none⟩) := by
  intro path link located isLink apart
  cases path with
  | nil =>
      obtain rfl := Option.some.inj located
      cases list with
      | text t => cases isLink
      | element tag attrs children =>
          exact absurd isLink (by simp [Node.tagIs, Node.tag?, Tag.not_link_of_isList isList])
  | cons i path =>
      obtain ⟨item, here, below⟩ := Option.bind_eq_some_iff.mp located
      have member := List.mem_of_getElem? here
      have shown := Node.showsLinks_of_isInlineItem (items item member) path link below isLink
        (Node.inScript_child here apart)
      obtain ⟨ordered, written⟩ := innerList_eq isList 0
      rw [written] at ok ⊢
      obtain ⟨number, itemOk, within⟩ := listItem_occurs ok member
      obtain ⟨inText, s, part, words⟩ := listItem_words itemOk shown isLink
      refine ⟨inText, s, part, words.trans (.of_occurs (within.trans ?_))⟩
      exact (Written.text_prefix_andThen _ _).isInfix

/-- A block writes its links behind its prose, or the links alone if it is nothing but links. -/
theorem write_inlineBlock (w : Walk) {block : Node} (inline : block.isInlineBlock = true) :
    ∃ prose, w.write block = prose.andThen (linkBlock w.document block) ∧
      (block.isLinksOnly = true → prose = .nothing) ∧
      (block.isLinksOnly = false → prose.error = none → ProseShows block prose) := by
  rcases Bool.or_eq_true_iff.mp inline with paragraph | list
  · obtain ⟨attrs, children, rfl⟩ :=
      Node.eq_element_of_hasTag (Bool.and_eq_true_iff.mp paragraph).1
    refine ⟨_, rfl, fun linksOnly => if_pos linksOnly, fun prose ok => ?_⟩
    have kept : ¬ isLinksOnlyParagraph children = true := Bool.not_eq_true _ ▸ prose
    rw [if_neg kept] at ok ⊢
    exact paragraph_shows paragraph ok
  · obtain ⟨isList, items⟩ := Bool.and_eq_true_iff.mp list
    cases block with
    | text t => cases isList
    | element tag attrs children =>
        have noParagraph : (Node.element tag attrs children).hasTag .paragraph = false := by
          cases tag <;> first | rfl | cases isList
        have linksOnly : (Node.element tag attrs children).isLinksOnly = isLinksOnlyList children :=
          if_neg (by simp [noParagraph])
        rw [linksOnly]
        refine ⟨_, write_list isList, fun only => if_pos only, fun prose ok => ?_⟩
        rw [prose] at ok ⊢
        exact list_shows isList (List.all_eq_true.mp items) (Written.andThen_error_eq_none.mp ok).1

/-- In a paragraph or a list of paragraphs that is written, a link with an empty destination has a
    label and no line. A label of one word occurs in what is written, unless the link stands in a
    script or the block is nothing but links. Of a block that is nothing but links only the lines
    are written. -/
theorem skipped_label_shown {w : Walk} {block : Node} (inline : block.isInlineBlock = true)
    (ok : (w.write block).error = none) :
    (∀ path link, block.at? path = some link → link.leadsNowhere = true →
      linkLine w.document link = .ok none ∧ ∃ t, label false link = .ok t ∧
        (block.isLinksOnly = false → block.inScript path = false → (∀ c ∈ t, isWhite c = false) →
          t <:+: (w.write block).text)) ∧
    (block.isLinksOnly = true → w.document.LinkBlockOf block (w.write block).text) := by
  obtain ⟨prose, written, only, shows⟩ := write_inlineBlock w inline
  rw [written] at ok ⊢
  obtain ⟨proseOk, linksOk⟩ := Written.andThen_error_eq_none.mp ok
  constructor
  · intro path link located nowhere
    have isLink : link.tagIs Tag.isLink = true := by
      rcases Node.kind_of_leadsNowhere nowhere with isKind | isKind
      · exact Node.tagIs_of_hasTag isKind rfl
      · exact Node.tagIs_of_hasTag isKind rfl
    obtain ⟨none, t, labelled⟩ :=
      linkLine_of_leadsNowhere linksOk (Node.mem_links.mpr ⟨path, located, isLink⟩) nowhere
    refine ⟨none, t, labelled, fun notOnly apart isWord => ?_⟩
    obtain ⟨inText, s, composed, words⟩ := shows notOnly proseOk path link located isLink apart
    have noRaw : link.hasTag .raw = false := by
      cases link with
      | text u => rfl
      | element tag attrs children => cases tag <;> first | rfl | cases isLink
    have here := (label_wordsIn noRaw composed labelled).trans words t isWord List.infix_rfl
    exact here.trans (Written.text_prefix_andThen _ _).isInfix
  · intro linksOnly
    rw [only linksOnly, Written.nothing_andThen]
    exact linkBlock_text linksOk

/-- A skipped link in an item of a list, behind an item that is a link with a line. -/
theorem skipped_label_shown_list :
    let link : Node := .element .reference { refuri := some [] } [.text "here".toList]
    let other : Node := .element .reference { refuri := some ['u'] } [.text ['o']]
    let paragraph (children : List Node) : Node := .element .paragraph {} children
    let item (children : List Node) : Node := .element .listItem {} [paragraph children]
    let list : Node := .element .bulletList {}
      [item [other], item [.element .strong {} [link], .text ['!']]]
    let w : Walk := { document := .ofChildren [list] }
    let t := "* o\n* **here**!\n\n=> u o\n\n".toList
    list.isInlineBlock = true ∧ w.write list = ⟨t, none⟩ ∧ list.at? [1, 0, 0, 0] = some link ∧
      linkLine w.document link = .ok none ∧ label false link = .ok "here".toList ∧
      "here".toList <:+: t := by
  intro link other paragraph item list w t
  have inline : list.isInlineBlock = true := by decide
  have written : w.write list = ⟨t, none⟩ := by
    dsimp only [w, t, list, item, paragraph, other, link]
    cbv
  have located : list.at? [1, 0, 0, 0] = some link := rfl
  have labelled : label false link = .ok "here".toList := by
    dsimp only [link]
    cbv
  obtain ⟨none, u, again, shows⟩ :=
    (skipped_label_shown inline (congrArg Written.error written)).1 _ link located rfl
  obtain rfl := Except.ok.inj (labelled.symm.trans again)
  have text := shows (by decide) (by decide) (by simp [isWhite])
  rw [written] at text
  exact ⟨inline, written, located, none, labelled, text⟩

/-- A label is lost where a block is nothing but links. In a script it may be written otherwise. -/
theorem skipped_label_is_lost :
    let link : Node := .element .reference { refuri := some [] } [.text "here".toList]
    let block : Node := .element .paragraph {} [link]
    let d := Document.ofChildren [block]
    let latex : Node := .element .raw { format := some "latex".toList } [.text ['q']]
    let mixed : Node := .element .reference { refuri := some [] } [.text ['a'], latex, .text ['b']]
    let scripted : Node := .element .paragraph {} [.element .subscript {} [mixed]]
    let w : Walk := { document := d }
    Document.ofMarkdown? "[here]()".toList = .ok d ∧ block.isInlineBlock = true ∧
      w.write block = .nothing ∧ linkLine d link = .ok none ∧
      label false link = .ok "here".toList ∧ ¬ "here".toList <:+: (w.write block).text ∧
      scripted.isInlineBlock = true ∧ w.write scripted = ⟨"_\x7baqb\x7d\n\n".toList, none⟩ ∧
      label false mixed = .ok "ab".toList ∧ ¬ "ab".toList <:+: (w.write scripted).text := by
  intro link block d latex mixed scripted w
  have written : w.write block = .nothing := by
    dsimp only [w, d, block, link]
    cbv
  have scripts : w.write scripted = ⟨"_\x7baqb\x7d\n\n".toList, none⟩ := by
    dsimp only [w, d, scripted, mixed, latex, block, link]
    cbv
  refine ⟨by decide +kernel, by decide, written, by decide +kernel, by decide +kernel, ?_,
    by decide, scripts, by decide +kernel, ?_⟩
  · rw [written]
    decide
  · rw [scripts]
    decide

end Gemtext
