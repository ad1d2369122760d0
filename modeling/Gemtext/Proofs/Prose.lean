import Gemtext.Proofs.Letters
import Gemtext.Proofs.PageLines
import Gemtext.Proofs.Register

/-! # Prose

The letters of prose (paragraphs, quotes and lists, one inside another) come into the rendered text
once each, whatever is put around them.

Composing a node leaves out the lists inside it, since an item writes the lists inside it behind its
own line. Nobody does so where a quote composes its children: the lists that are left out there
are lost, and nothing else is.
-/

namespace Gemtext

open Text

/-! ## Trees of prose -/

/-- Where a node of prose stands: as a block, as an item of a list, or as words in a paragraph. -/
inductive Slot where
  | block
  | item
  | words
  deriving DecidableEq, Repr

/-- The slot of the children of an element, if prose may hold the element. -/
def Slot.inside : Slot → Tag → Option Slot
  | block, .paragraph => some words
  | block, .blockQuote => some block
  | block, .bulletList | block, .enumeratedList => some item
  | item, .listItem => some block
  | _, _ => none

theorem Slot.inside_cases {slot inner : Slot} {tag : Tag} (h : slot.inside tag = some inner) :
    (slot = block ∧ tag = .paragraph ∧ inner = words) ∨
      (slot = block ∧ tag = .blockQuote ∧ inner = block) ∨
      (slot = block ∧ (tag = .bulletList ∨ tag = .enumeratedList) ∧ inner = item) ∨
      (slot = item ∧ tag = .listItem ∧ inner = block) := by
  unfold inside at h
  split at h
  all_goals simp_all

namespace Node

mutual
/-- Whether a tree is prose: quotes and items hold blocks, lists hold items, and paragraphs hold
    nothing but texts. -/
def isProse (slot : Slot) : Node → Bool
  | text _ => slot == .words
  | element tag _ children => (slot.inside tag).any fun inner => allProse inner children

def allProse (slot : Slot) : List Node → Bool
  | [] => true
  | n :: rest => n.isProse slot && allProse slot rest
end

theorem allProse_iff {slot : Slot} {ns : List Node} :
    allProse slot ns = true ↔ ∀ n ∈ ns, n.isProse slot = true := by
  induction ns with
  | nil => simp [allProse]
  | cons n rest ih => rw [allProse, Bool.and_eq_true, ih, List.forall_mem_cons]

theorem isProse_element {slot : Slot} {tag : Tag} {attrs : Attributes} {children : List Node} :
    (element tag attrs children).isProse slot = true ↔
      ∃ inner, slot.inside tag = some inner ∧ ∀ c ∈ children, c.isProse inner = true := by
  simp only [isProse, Option.any_eq_true, allProse_iff]

theorem eq_text_of_isProse {n : Node} (prose : n.isProse .words = true) : ∃ t, n = text t := by
  cases n with
  | text t => exact ⟨t, rfl⟩
  | element tag attrs children =>
      obtain ⟨_, within, _⟩ := isProse_element.mp prose
      cases within

/-- Induction over prose. -/
@[elab_as_elim]
theorem isProse_rec {motive : (slot : Slot) → (n : Node) → n.isProse slot = true → Prop}
    (words : ∀ t, motive .words (text t) rfl)
    (element : ∀ {slot tag inner} attrs children (within : slot.inside tag = some inner)
      (each : ∀ c ∈ children, c.isProse inner = true),
      (∀ c (member : c ∈ children), motive inner c (each c member)) →
      motive slot (element tag attrs children) (isProse_element.mpr ⟨inner, within, each⟩))
    {slot : Slot} {n : Node} (prose : n.isProse slot = true) : motive slot n prose := by
  induction n using rec_strong generalizing slot with
  | text t =>
      obtain rfl : slot = .words := eq_of_beq prose
      exact words t
  | element tag attrs children ih =>
      obtain ⟨inner, within, each⟩ := isProse_element.mp prose
      exact element attrs children within each fun c member => ih c member (each c member)

theorem links_of_isProse {slot : Slot} {n : Node} (prose : n.isProse slot = true) :
    n.links = [] := by
  induction prose using isProse_rec with
  | words t => rfl
  | element attrs children within each ih =>
      have inside : filterAll (·.tagIs Tag.isLink) children = [] := by
        rw [filterAll_eq_flatMap]
        exact List.flatMap_eq_nil_iff.mpr ih
      rw [links, filter, inside]
      rcases Slot.inside_cases within with
        ⟨_, rfl, _⟩ | ⟨_, rfl, _⟩ | ⟨_, rfl | rfl, _⟩ | ⟨_, rfl, _⟩
      all_goals rfl

/-! ## Lists that are left out -/

mutual
/-- The outermost lists inside a node, which are left out when the node is composed. -/
def leftOut : Node → List Node
  | text _ => []
  | element _ _ children => leftOutIn children

def leftOutIn : List Node → List Node
  | [] => []
  | c :: rest => (if c.tagIs Tag.isList then [c] else c.leftOut) ++ leftOutIn rest
end

theorem leftOutIn_eq_flatMap (ns : List Node) :
    leftOutIn ns = ns.flatMap fun c => if c.tagIs Tag.isList then [c] else c.leftOut := by
  induction ns with
  | nil => rfl
  | cons n rest ih => rw [leftOutIn, ih, List.flatMap_cons]

mutual
/-- The lists inside a list, an item or a child of an item that are not written with it. Lists
    right inside an item are. -/
def lost : Node → List Node
  | text _ => []
  | element tag _ children =>
    if tag.isList || tag == .listItem then lostIn children else leftOutIn children

def lostIn : List Node → List Node
  | [] => []
  | c :: rest => c.lost ++ lostIn rest
end

theorem lostIn_eq_flatMap (ns : List Node) : lostIn ns = ns.flatMap lost := by
  induction ns with
  | nil => rfl
  | cons n rest ih => rw [lostIn, ih, List.flatMap_cons]

/-- The lists inside a block of a document that are not written. A quote composes each of its
    children by itself, so that a list right inside it is not left out. -/
def lostAtTop (n : Node) : List Node :=
  if n.hasTag .blockQuote then n.children.flatMap leftOut else n.lost

end Node

/-- The lists in a document that are not written. -/
def Document.lost (d : Document) : List Node := d.children.flatMap Node.lostAtTop

/-! ### Where lists are lost -/

namespace Node

theorem mem_leftOut {n l : Node} (member : l ∈ n.leftOut) : l ∈ n.filter (·.tagIs Tag.isList) := by
  induction n using rec_strong with
  | text t => cases member
  | element tag attrs children ih =>
      obtain ⟨c, inside, below⟩ : ∃ c ∈ children, l ∈ c.filter (·.tagIs Tag.isList) := by
        rw [leftOut, leftOutIn_eq_flatMap] at member
        obtain ⟨c, inside, below⟩ := List.mem_flatMap.mp member
        refine ⟨c, inside, ?_⟩
        split at below
        · next isList =>
            obtain rfl := List.mem_singleton.mp below
            exact mem_filter.mpr ⟨[], rfl, isList⟩
        · exact ih c inside below
      exact mem_filter_of_child inside below

theorem quote_of_mem_lost {slot : Slot} {n l : Node} (prose : n.isProse slot = true)
    (member : l ∈ n.lost) :
    ∃ quote ∈ n.filter (·.hasTag .blockQuote), l ∈ quote.filter (·.tagIs Tag.isList) := by
  induction prose using isProse_rec with
  | words t => cases member
  | @element slot tag inner attrs children within each ih =>
      have written (inside : l ∈ lostIn children) :
          ∃ quote ∈ (element tag attrs children).filter (·.hasTag .blockQuote),
            l ∈ quote.filter (·.tagIs Tag.isList) := by
        rw [lostIn_eq_flatMap] at inside
        obtain ⟨c, isChild, below⟩ := List.mem_flatMap.mp inside
        obtain ⟨quote, isQuote, inQuote⟩ := ih c isChild below
        exact ⟨quote, mem_filter_of_child isChild isQuote, inQuote⟩
      rcases Slot.inside_cases within with
        ⟨_, rfl, rfl⟩ | ⟨_, rfl, rfl⟩ | ⟨_, rfl | rfl, rfl⟩ | ⟨_, rfl, rfl⟩
      · rw [lost, leftOutIn_eq_flatMap] at member
        obtain ⟨c, isChild, below⟩ := List.mem_flatMap.mp member
        obtain ⟨t, rfl⟩ := eq_text_of_isProse (each c isChild)
        cases below
      · exact ⟨_, mem_filter.mpr ⟨[], rfl, rfl⟩, mem_leftOut member⟩
      · exact written member
      · exact written member
      · exact written member

/-- A list that is not written stands in a quote. -/
theorem quote_of_mem_lostAtTop {n l : Node} (prose : n.isProse .block = true)
    (member : l ∈ n.lostAtTop) :
    ∃ quote ∈ n.filter (·.hasTag .blockQuote), l ∈ quote.filter (·.tagIs Tag.isList) := by
  unfold lostAtTop at member
  split at member
  · next isQuote =>
      obtain ⟨attrs, children, rfl⟩ := eq_element_of_hasTag isQuote
      obtain ⟨c, isChild, below⟩ := List.mem_flatMap.mp member
      exact ⟨_, mem_filter.mpr ⟨[], rfl, rfl⟩, mem_filter_of_child isChild (mem_leftOut below)⟩
  · exact quote_of_mem_lost prose member

end Node

/-! ## Composed prose -/

open Node

theorem compose_prose {slot inner : Slot} {tag : Tag} (within : slot.inside tag = some inner)
    (style : Style) (inText : Bool) (attrs : Attributes) (children : List Node) :
    compose style inText (.element tag attrs children) =
      (composeParts style tag.isTextual children).map (joinParts style children) := by
  rcases Slot.inside_cases within with ⟨_, rfl, _⟩ | ⟨_, rfl, _⟩ | ⟨_, rfl | rfl, _⟩ | ⟨_, rfl, _⟩
  all_goals
    simp only [compose, Style.delimiter, Tag.delimiter, ite_self, List.nil_append, List.append_nil]
    cases composeParts style _ children <;> rfl

theorem letters_joinParts (style : Style) (children : List Node) (parts : List (List Char)) :
    letters (joinParts style children parts) = letters parts.flatten := by
  simp only [joinParts]
  split
  · exact letters_intercalate (letters_separator style) parts
  · exact letters_intercalate rfl parts

theorem composeParts_keeps {style : Style} {inText : Bool} {children : List Node}
    (each : ∀ c ∈ children, ∃ t, compose style inText c = .ok t ∧ Keeps t [c] c.leftOut) :
    ∃ parts, composeParts style inText children = .ok parts ∧
      Keeps parts.flatten children (leftOutIn children) := by
  induction children with
  | nil => exact ⟨[], rfl, .nil⟩
  | cons c rest ih =>
      obtain ⟨⟨t, composed, keeps⟩, behind⟩ := List.forall_mem_cons.mp each
      obtain ⟨parts, more, keepsMore⟩ := ih behind
      cases isList : c.tagIs Tag.isList with
      | true =>
          refine ⟨parts, by simp [composeParts, isList, more], ?_⟩
          have leftOut : Keeps [] [c] [c] := List.Perm.refl _
          simpa [leftOutIn, isList] using leftOut.append keepsMore
      | false =>
          refine ⟨if t.isEmpty then parts else t :: parts, ?_, ?_⟩
          · simp [composeParts, isList, composed, more]
          · have both := keeps.append keepsMore
            have same : (if t.isEmpty then parts else t :: parts).flatten = t ++ parts.flatten := by
              cases t <;> rfl
            rw [same]
            simpa [leftOutIn, isList] using both

/-- Prose is composed without a failure, and only lists inside it are left out. -/
theorem compose_keeps {slot : Slot} {n : Node} (prose : n.isProse slot = true) (style : Style)
    (inText : Bool) : ∃ t, compose style inText n = .ok t ∧ Keeps t [n] n.leftOut := by
  induction prose using isProse_rec generalizing inText with
  | words t =>
      refine ⟨_, rfl, ?_⟩
      simp [Keeps, leftOut, textsIn, texts, letters_joinLines]
  | element attrs children within each ih =>
      obtain ⟨parts, composed, keeps⟩ := composeParts_keeps fun c member => ih c member _
      refine ⟨_, by rw [compose_prose within, composed]; rfl, ?_⟩
      exact .of_children (keeps.congr (letters_joinParts ..))

/-! ## Lists -/

theorem letters_itemLine (ordered : Bool) (level number : Nat) (isTerm : Bool)
    (children : List Node) (t : List Char) :
    letters (itemLine ordered level number isTerm children t) = letters t := by
  have gap : letters (if isTerm ∧ 1 < number then ['\n'] else []) = [] := by split <;> rfl
  have indent : letters (List.replicate level '\t') = [] := by
    refine letters_eq_nil fun c member => ?_
    obtain rfl := List.eq_of_mem_replicate member
    rfl
  have marker : letters (itemMarker ordered isTerm number) = [] := by
    unfold itemMarker
    split
    · rw [letters_append, letters_decimal]
      rfl
    · split <;> rfl
  have ending : letters ['\n'] = [] := rfl
  rw [itemLine, letters_append, gap]
  split
  · next empty => simp [empty.1]
  · simp only [letters_append, indent, marker, ending, List.nil_append, List.append_nil]

theorem itemHead_keeps {attrs : Attributes} {children : List Node}
    (prose : (Node.element .listItem attrs children).isProse .item = true) (ordered : Bool)
    (level number : Nat) : (itemHead ordered level number attrs children).Keeps
      [.element .listItem attrs children] (leftOutIn children) := by
  obtain ⟨t, composed, keeps⟩ := compose_keeps prose {} false
  simp only [itemHead, composed]
  exact ⟨rfl, keeps.congr ((letters_itemLine ..).trans (letters_joinLines rfl t))⟩

theorem listItems_keeps {ordered : Bool} {level : Nat} {items : List Node}
    (each : ∀ c ∈ items, ∀ number, (listItem ordered level number c).Keeps [c] c.lost)
    (number : Nat) : (listItems ordered level number items).Keeps items (lostIn items) := by
  induction items generalizing number with
  | nil => exact .nothing
  | cons c rest ih =>
      obtain ⟨first, behind⟩ := List.forall_mem_cons.mp each
      exact (first number).andThen (ih behind (number + 1))

/-- The node if it is a list. -/
def Node.asList (n : Node) : List Node := if n.tagIs Tag.isList then [n] else []

theorem Node.asList_of_isList {n : Node} (h : n.tagIs Tag.isList = true) : n.asList = [n] :=
  if_pos h

theorem innerLists_keeps {level : Nat} {children : List Node}
    (each : ∀ c ∈ children, (innerList level c).Keeps c.asList (c.asList.flatMap Node.lost)) :
    (innerLists level children).Keeps (children.flatMap Node.asList)
      ((children.flatMap Node.asList).flatMap Node.lost) := by
  induction children with
  | nil => exact .nothing
  | cons c rest ih =>
      obtain ⟨first, behind⟩ := List.forall_mem_cons.mp each
      rw [List.flatMap_cons, List.flatMap_append]
      exact first.andThen (ih behind)

/-- What the line of an item leaves out of a child, and what is lost where the child is a list that
    is written behind the line, is that list and what is lost of the child altogether. -/
theorem leftOut_append_lost {c : Node} (prose : c.isProse .block = true) :
    (if c.tagIs Tag.isList then [c] else c.leftOut) ++ c.asList.flatMap Node.lost =
      c.asList ++ c.lost := by
  unfold Node.asList
  split
  · simp
  · next noList =>
      cases c with
      | text t => rfl
      | element tag attrs children =>
          obtain ⟨inner, within, _⟩ := isProse_element.mp prose
          rcases Slot.inside_cases within with
            ⟨_, rfl, _⟩ | ⟨_, rfl, _⟩ | ⟨_, rfl | rfl, _⟩ | ⟨isItem, _⟩
          · simp [Node.lost, leftOut, Tag.isList]
          · simp [Node.lost, leftOut, Tag.isList]
          · exact absurd rfl noList
          · exact absurd rfl noList
          · cases isItem

theorem leftOutIn_perm {children : List Node} (each : ∀ c ∈ children, c.isProse .block = true) :
    (leftOutIn children ++ (children.flatMap Node.asList).flatMap Node.lost).Perm
      (children.flatMap Node.asList ++ lostIn children) := by
  induction children with
  | nil => exact .nil
  | cons c rest ih =>
      obtain ⟨first, behind⟩ := List.forall_mem_cons.mp each
      refine List.perm_iff_count.mpr fun n => ?_
      have here := congrArg (List.count n) (leftOut_append_lost first)
      have there := (ih behind).count_eq n
      simp only [leftOutIn, lostIn, List.flatMap_cons, List.flatMap_append, List.count_append] at *
      omega

/-- An item writes its own line and the lists right inside it, and a list writes its items. -/
theorem listItem_keeps {slot : Slot} {n : Node} (prose : n.isProse slot = true) :
    (slot = .item → ∀ ordered level number, (listItem ordered level number n).Keeps [n] n.lost) ∧
      ∀ level, (innerList level n).Keeps n.asList (n.asList.flatMap Node.lost) := by
  induction prose using isProse_rec with
  | words t => exact ⟨nofun, fun _ => .nothing⟩
  | element attrs children within each ih =>
      rcases Slot.inside_cases within with
        ⟨rfl, rfl, rfl⟩ | ⟨rfl, rfl, rfl⟩ | ⟨rfl, isList, rfl⟩ | ⟨rfl, rfl, rfl⟩
      · exact ⟨nofun, fun _ => .nothing⟩
      · exact ⟨nofun, fun _ => .nothing⟩
      · refine ⟨nofun, fun level => ?_⟩
        have items (ordered : Bool) :
            (listItems ordered level 1 children).Keeps children (lostIn children) :=
          listItems_keeps (fun c member => (ih c member).1 rfl ordered level) 1
        rcases isList with rfl | rfl
        · rw [asList_of_isList rfl, List.flatMap_singleton]
          exact (items false).of_children
        · rw [asList_of_isList rfl, List.flatMap_singleton]
          exact (items true).of_children
      · refine ⟨fun _ ordered level number => ?_, fun _ => .nothing⟩
        have lost : (Node.element .listItem attrs children).lost = lostIn children := rfl
        rw [listItem, if_neg (by simp), lost]
        split
        · next empty =>
            obtain rfl := List.isEmpty_iff.mp empty
            exact ⟨rfl, .of_children .nil⟩
        · have prose : (Node.element .listItem attrs children).isProse .item = true :=
            isProse_element.mpr ⟨_, within, each⟩
          have head := itemHead_keeps prose ordered level number
          have inner := innerLists_keeps fun c member => (ih c member).2 (level + 1)
          have whole := head.andThen inner
          exact ⟨whole.ok, whole.text.cancel (leftOutIn_perm each)⟩

/-! ## Blocks of a document -/

theorem letters_textsIn_eq_nil {ns : List Node} (each : ∀ n ∈ ns, letters n.texts = []) :
    letters (textsIn ns) = [] := by
  rw [textsIn_eq_flatMap, letters, List.filter_flatMap]
  exact List.flatMap_eq_nil_iff.mpr each

theorem letters_of_links_only {attrs : Attributes} {children : List Node}
    (prose : (Node.element .paragraph attrs children).isProse .block = true)
    (blank : isLinksOnlyParagraph children = true) : letters (textsIn children) = [] := by
  obtain ⟨inner, within, each⟩ := isProse_element.mp prose
  obtain rfl : Slot.words = inner := Option.some.inj within
  refine letters_textsIn_eq_nil fun c member => ?_
  obtain ⟨t, rfl⟩ := eq_text_of_isProse (each c member)
  exact letters_blank (List.all_eq_true.mp blank _ member)

theorem letters_of_links_only_list {items : List Node}
    (prose : ∀ item ∈ items, item.isProse .item = true) (blank : isLinksOnlyList items = true) :
    letters (textsIn items) = [] := by
  refine letters_textsIn_eq_nil fun item member => ?_
  have whole := List.all_eq_true.mp blank item member
  obtain ⟨isItem, paragraphs⟩ := Bool.and_eq_true_iff.mp whole
  obtain ⟨attrs, children, rfl⟩ := eq_element_of_hasTag isItem
  obtain ⟨inner, within, each⟩ := isProse_element.mp (prose _ member)
  obtain rfl : Slot.block = inner := Option.some.inj within
  refine letters_textsIn_eq_nil fun c inside => ?_
  have one := List.all_eq_true.mp paragraphs c inside
  obtain ⟨isParagraph, onlyLinks⟩ := Bool.and_eq_true_iff.mp one
  obtain ⟨attrs, words, rfl⟩ := eq_element_of_hasTag isParagraph
  exact letters_of_links_only (each _ inside) onlyLinks

theorem letters_blockOf (t : List Char) : letters (blockOf t) = letters t := by
  unfold blockOf
  split
  · next blank => exact (letters_blank blank).symm
  · rw [letters_append]
    exact List.append_nil _

theorem quoteChunk_keeps {c : Node} (prose : c.isProse .block = true) :
    (Written.ofExcept (quoteChunk c)).Keeps [c] c.leftOut := by
  obtain ⟨t, composed, keeps⟩ := compose_keeps prose { quoted := true } false
  simp only [quoteChunk, composed, Except.map, Written.ofExcept]
  refine ⟨rfl, keeps.congr ?_⟩
  split
  · next blank => exact (letters_blank blank).symm
  · rw [letters_append, letters_append]
    exact List.append_nil _

theorem quoteChunks_keeps {children : List Node} (each : ∀ c ∈ children, c.isProse .block = true) :
    (quoteChunks children).Keeps children (children.flatMap Node.leftOut) := by
  induction children with
  | nil => exact .nothing
  | cons c rest ih =>
      obtain ⟨first, behind⟩ := List.forall_mem_cons.mp each
      exact (quoteChunk_keeps first).andThen (ih behind)

theorem paragraph_keeps {attrs : Attributes} {children : List Node}
    (prose : (Node.element .paragraph attrs children).isProse .block = true) :
    (if isLinksOnlyParagraph children then Written.nothing
      else Written.ofExcept ((compose {} false (.element .paragraph attrs children)).map
        blockOf)).Keeps [.element .paragraph attrs children] (leftOutIn children) := by
  obtain ⟨t, composed, keeps⟩ := compose_keeps prose {} false
  rw [composed]
  split
  · next blank =>
      have noLetters := letters_of_links_only prose blank
      exact ⟨rfl, keeps.blank (by simpa [textsIn, texts] using noLetters)⟩
  · exact ⟨rfl, keeps.congr (letters_blockOf t)⟩

theorem list_keeps {items : List Node} (prose : ∀ item ∈ items, item.isProse .item = true)
    (ordered : Bool) :
    (if isLinksOnlyList items then Written.nothing
      else (listItems ordered 0 1 items).andThen ⟨['\n'], none⟩).Keeps items (lostIn items) := by
  have keeps : (listItems ordered 0 1 items).Keeps items (lostIn items) :=
    listItems_keeps (fun item member => (listItem_keeps (prose item member)).1 rfl ordered 0) 1
  split
  · next blank =>
      have noLetters := letters_of_links_only_list prose blank
      exact ⟨rfl, keeps.text.blank noLetters⟩
  · exact keeps.andThen_layout rfl

/-- A block of prose has no links, so that its own text is all that is written. -/
theorem write_keeps (w : Walk) {c : Node} (prose : c.isProse .block = true) :
    (w.write c).Keeps [c] c.lostAtTop := by
  cases c with
  | text t => cases prose
  | element tag attrs children =>
      have noLinks : linkBlock w.document (.element tag attrs children) = .nothing :=
        linkBlock_of_no_links (links_of_isProse prose)
      obtain ⟨inner, within, each⟩ := isProse_element.mp prose
      rcases Slot.inside_cases within with
        ⟨_, rfl, rfl⟩ | ⟨_, rfl, rfl⟩ | ⟨_, rfl | rfl, rfl⟩ | ⟨isItem, _⟩
      · simp only [Walk.write, noLinks, Written.andThen_nothing]
        exact paragraph_keeps prose
      · simp only [Walk.write, noLinks, Written.andThen_nothing]
        exact (quoteChunks_keeps each).of_children
      · simp only [Walk.write, noLinks, Written.andThen_nothing]
        exact (list_keeps each false).of_children
      · simp only [Walk.write, noLinks, Written.andThen_nothing]
        exact (list_keeps each true).of_children
      · cases isItem

theorem writeAll_keeps (w : Walk) {blocks : List Node}
    (prose : ∀ c ∈ blocks, c.isProse .block = true) :
    (w.writeAll blocks).Keeps blocks (blocks.flatMap Node.lostAtTop) := by
  induction blocks with
  | nil => exact .nothing
  | cons c rest ih =>
      obtain ⟨first, behind⟩ := List.forall_mem_cons.mp prose
      exact (write_keeps w first).andThen (ih behind)

/-- A document of prose that is not too deep is rendered, and its letters are those of its texts
    besides the header: none is written twice, and none is missing but those in lost lists, which
    all stand in quotes. -/
theorem render_keeps_letters {d : Document} (prose : ∀ c ∈ d.children, c.isProse .block = true)
    {settings : Settings} (shallow : d.checkDepth settings.maxNestingDepth = .ok ())
    (metadata : Option Metadata) :
    (∃ t, render d settings metadata = .ok t ∧
      (letters t ++ letters (textsIn d.lost)).Perm
        (letters ((metadata.map Metadata.header).getD []) ++ letters (textsIn d.children))) ∧
    ∀ l ∈ d.lost, ∃ quote ∈ d.root.filter (·.hasTag .blockQuote),
      l ∈ quote.filter (·.tagIs Tag.isList) := by
  constructor
  · let w : Walk := ⟨d, metadata, settings.maxHeadingLevel⟩
    have keeps := writeAll_keeps w prose
    have root : w.write d.root =
        Written.andThen ⟨(metadata.map Metadata.header).getD [], none⟩ (w.writeAll d.children) := by
      rw [Document.root, Walk.write]
    have ok : (w.write d.root).error = none := by
      rw [root]
      exact Written.andThen_error_eq_none.mpr ⟨rfl, keeps.ok⟩
    refine ⟨_, render_eq_ok.mpr ⟨shallow, ok, rfl⟩, ?_⟩
    change (letters (endOnce (w.write d.root).text) ++ _).Perm _
    rw [letters_endOnce, root, Written.andThen_text_of_ok rfl, letters_append, List.append_assoc]
    exact keeps.text.append_left _
  · intro l member
    obtain ⟨c, isChild, below⟩ := List.mem_flatMap.mp member
    obtain ⟨quote, isQuote, inQuote⟩ := quote_of_mem_lostAtTop (prose c isChild) below
    exact ⟨quote, mem_filter_of_child isChild isQuote, inQuote⟩

/-- A list in a list, outside of quotes and in one. The inner one is lost in the quote. -/
theorem render_keeps_letters_lists :
    let paragraph (t : Char) : Node := .element .paragraph {} [.text [t]]
    let list (blocks : List Node) : Node := .element .bulletList {} [.element .listItem {} blocks]
    let quote : Node := .element .blockQuote {}
      [paragraph 'd', list [paragraph 'e', list [paragraph 'f']]]
    let d := Document.ofChildren [list [paragraph 'a', list [paragraph 'b'], paragraph 'c'], quote]
    d.lost = [list [paragraph 'f']] ∧
      render d {} none = .ok "* a c\n\t* b\n\n> d\n\n> e\n".toList ∧
      ∃ t, render d {} none = .ok t ∧
        (letters t ++ ['f']).Perm ['a', 'b', 'c', 'd', 'e', 'f'] := by
  intro paragraph list quote d
  have blocks :
      d.children = [list [paragraph 'a', list [paragraph 'b'], paragraph 'c'], quote] := by
    simp [d, Document.ofChildren]
  have prose : ∀ c ∈ d.children, c.isProse .block = true := by
    rw [blocks]
    decide
  have shallow : d.checkDepth ({} : Settings).maxNestingDepth = .ok () := by decide
  have lost : d.lost = [list [paragraph 'f']] := by
    rw [Document.lost, blocks]
    rfl
  have kept := (render_keeps_letters prose shallow none).1
  rw [lost, blocks] at kept
  refine ⟨lost, ?_, kept⟩
  clear blocks prose shallow lost kept
  dsimp only [d, quote, list, paragraph]
  cbv

/-- In a quote that stands in a quote, a list is lost with all its letters. -/
theorem list_in_quotes_is_lost :
    let list : Node := .element .bulletList {}
      [.element .listItem {} [.element .paragraph {} [.text ['x']]]]
    let quotes : Node := .element .blockQuote {} [.element .blockQuote {} [list]]
    let d := Document.ofChildren [quotes]
    (∀ c ∈ d.children, c.isProse .block = true) ∧
      d.checkDepth ({} : Settings).maxNestingDepth = .ok () ∧ render d {} none = .ok [] ∧
      ¬(letters []).Perm (letters (textsIn d.children)) := by
  intro list quotes d
  have blocks : d.children = [quotes] := by simp [d, Document.ofChildren]
  rw [blocks]
  refine ⟨by decide, by decide, ?_, by decide⟩
  clear blocks
  dsimp only [d, quotes, list]
  cbv

end Gemtext
