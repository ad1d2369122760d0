import Mathlib.Data.List.Basic
import Mathlib.Data.List.Forall2
import Mathlib.Data.List.Permutation
import Gemtext.Proofs.Locality
import Gemtext.Proofs.PageLines
import Gemtext.Proofs.Sound

/-! # The lines of links

What stands behind a block: the lines of the footnotes, of the images and of the references among
its links, each kind followed by an empty line if there is any of it. Links that lead nowhere have
no line.
-/

namespace Gemtext

open Text

/-! ## The line of a link -/

namespace Node

def destination? : Node → Option (List Char)
  | element .image attrs _ => attrs.uri
  | element .reference attrs _ => attrs.refuri
  | _ => none

/-- A reference or an image with an empty destination. -/
def leadsNowhere (link : Node) : Bool := link.destination? == some []

theorem destination?_note {n : Node} (isNote : n.hasTag .footnoteReference = true) :
    n.destination? = none := by
  obtain ⟨attrs, children, rfl⟩ := eq_element_of_hasTag isNote
  rfl

end Node

/-- The lines that a link may have: the number and the text of the footnote that is referred to,
    or a destination, with a label unless it is empty or the destination itself. -/
inductive Document.LineOf (d : Document) (link : Node) : List Char → Prop where
  | note {entry : Definition} {number : Int} {t : List Char} :
      link.hasTag .footnoteReference = true → d.resolve link = .ok entry →
      link.attrs.noteid = some number → label false entry.node = .ok t →
      d.LineOf link ("[^".toList ++ decimal number ++ "]: ".toList ++ t)
  | destination {uri t : List Char} :
      link.destination? = some uri → label false link = .ok t →
      d.LineOf link ("=> ".toList ++ uri ++ if t = [] ∨ t = uri then [] else ' ' :: t)

theorem linkLine_spec {d : Document} {link : Node} (isLink : link.tagIs Tag.isLink = true)
    {line : Option (List Char)} (h : linkLine d link = .ok line) :
    if link.leadsNowhere then line = none else ∃ t, line = some t ∧ d.LineOf link t := by
  unfold linkLine at h
  by_cases isNote : link.hasTag .footnoteReference = true
  · rw [if_pos isNote] at h
    have goes : link.leadsNowhere = false := by
      simp [Node.leadsNowhere, Node.destination?_note isNote]
    rw [goes]
    cases resolved : d.resolve link with
    | error e => simp [resolved] at h
    | ok entry =>
        cases given : link.attrs.noteid with
        | none => simp [resolved, given] at h
        | some number =>
            cases labelled : label false entry.node with
            | error e => simp [resolved, given, labelled] at h
            | ok t =>
                simp only [resolved, given, labelled] at h
                obtain ⟨written, ok, rfl⟩ := map_eq_ok.mp h
                obtain ⟨_, rfl⟩ := footnoteLine_eq_ok.mp ok
                exact ⟨_, rfl, .note isNote resolved given labelled⟩
  · rw [if_neg isNote] at h
    have destination : (if link.hasTag .image = true then link.attrs.uri else link.attrs.refuri) =
        link.destination? := by
      cases link with
      | text t => rfl
      | element tag attrs children =>
          cases tag with
          | image | reference => rfl
          | footnoteReference => exact absurd rfl isNote
          | _ => cases isLink
    simp only [destination] at h
    cases labelled : label false link with
    | error e => simp [labelled] at h
    | ok t =>
        simp only [labelled] at h
        by_cases nowhere : link.destination? = some []
        · rw [if_pos nowhere] at h
          simpa [Node.leadsNowhere, nowhere] using (Except.ok.inj h).symm
        · rw [if_neg nowhere] at h
          have goes : link.leadsNowhere = false := by simp [Node.leadsNowhere, nowhere]
          obtain ⟨rendered, written, rfl⟩ := map_eq_ok.mp h
          cases given : link.destination? with
          | none => simp [LinkLine.render, given] at written
          | some uri =>
              simp only [LinkLine.render, given, Except.ok.injEq] at written
              rw [goes]
              refine ⟨rendered, rfl, ?_⟩
              rw [← written, LinkLine.suffix]
              simpa using Document.LineOf.destination given labelled

theorem label_one_line {inText : Bool} {n : Node} {t : List Char} (h : label inText n = .ok t) :
    '\n' ∉ t :=
  no_feed_of_no_break (label_no_break h)

theorem decimal_one_line (number : Int) : '\n' ∉ decimal number :=
  no_feed_of_no_break (decimal_no_break number)

/-- The line of a link is a single line, unless its destination holds a line feed. -/
theorem Document.LineOf.one_line {d : Document} {link : Node} {line : List Char}
    (h : d.LineOf link line) (plain : ∀ uri, link.destination? = some uri → '\n' ∉ uri) :
    '\n' ∉ line ∧ line ≠ [] := by
  cases h with
  | note _ _ _ labelled => simp [decimal_one_line, label_one_line labelled]
  | @destination uri t given labelled =>
      have suffix : '\n' ∉ if t = [] ∨ t = uri then [] else ' ' :: t := by
        split
        · simp
        · simp [label_one_line labelled]
      simp [plain uri given, suffix]

/-- The links of one kind that have a line. -/
def shownLinks (kind : Tag) (links : List Node) : List Node :=
  links.filter fun link => link.hasTag kind && !link.leadsNowhere

theorem linkLines_spec {d : Document} {links : List Node}
    (isLink : ∀ link ∈ links, link.tagIs Tag.isLink = true) {lines : List (List Char)}
    (h : linkLines d links = .ok lines) :
    List.Forall₂ d.LineOf (links.filter fun link => !link.leadsNowhere) lines := by
  induction links generalizing lines with
  | nil =>
      obtain rfl : [] = lines := by simpa [linkLines] using h
      exact .nil
  | cons link rest ih =>
      obtain ⟨first, behind⟩ := List.forall_mem_cons.mp isLink
      rw [linkLines] at h
      cases one : linkLine d link with
      | error e => simp [one] at h
      | ok line =>
          simp only [one] at h
          obtain ⟨more, listed, rfl⟩ := map_eq_ok.mp h
          have spec := linkLine_spec first one
          cases nowhere : link.leadsNowhere with
          | true =>
              obtain rfl : line = none := by simpa [nowhere] using spec
              simpa [nowhere] using ih behind listed
          | false =>
              obtain ⟨t, rfl, own⟩ : ∃ t, line = some t ∧ d.LineOf link t := by
                simpa [nowhere] using spec
              simpa [nowhere] using ⟨own, ih behind listed⟩

theorem forall₂_exists {α β : Type} {R : α → β → Prop} {as : List α} {bs : List β}
    (h : List.Forall₂ R as bs) {a : α} (member : a ∈ as) : ∃ b ∈ bs, R a b := by
  induction h with
  | nil => cases member
  | cons first _ ih =>
      rcases List.mem_cons.mp member with rfl | behind
      · exact ⟨_, List.mem_cons_self, first⟩
      · obtain ⟨b, inside, related⟩ := ih behind
        exact ⟨b, List.mem_cons_of_mem _ inside, related⟩

/-! ## Link blocks -/

/-- Lines behind one another, with an empty line behind them if there are any. -/
def lineGroup (lines : List (List Char)) : List Char :=
  if lines.isEmpty then [] else lines.flatMap (· ++ ['\n']) ++ ['\n']

theorem lineGroup_endsLine (lines : List (List Char)) : EndsLine (lineGroup lines) := by
  unfold lineGroup
  split
  · exact .nil
  · exact .of_suffix (List.suffix_refl _)

theorem intercalate_newline {lines : List (List Char)} (some : lines ≠ []) :
    ['\n'].intercalate lines ++ ['\n'] = lines.flatMap (· ++ ['\n']) := by
  induction lines with
  | nil => exact absurd rfl some
  | cons line rest ih =>
      cases rest with
      | nil => simp
      | cons next rest =>
          rw [List.intercalate_cons_cons, List.append_assoc, ih (by simp)]
          simp

theorem linkGroup_text {d : Document} {links : List Node} {kind : Tag} (isLink : kind.isLink = true)
    (ok : (linkGroup d links kind).error = none) :
    ∃ lines, List.Forall₂ d.LineOf (shownLinks kind links) lines ∧
      (linkGroup d links kind).text = lineGroup lines := by
  unfold linkGroup at ok ⊢
  cases listed : linkLines d (links.filter (·.hasTag kind)) with
  | error e => simp [listed, Except.map, Written.ofExcept, Written.fail] at ok
  | ok lines =>
      refine ⟨lines, ?_, ?_⟩
      · have spec := linkLines_spec (fun link member =>
          Node.tagIs_of_hasTag (List.mem_filter.mp member).2 isLink) listed
        simpa [shownLinks, List.filter_filter, Bool.and_comm] using spec
      · simp only [Except.map, Written.ofExcept, lineGroup]
        cases lines with
        | nil => rfl
        | cons line rest =>
            rw [← intercalate_newline (by simp)]
            simp

/-- A text that is the link block of a node: the lines of the footnotes, of the images and of the
    references among its links, in the order of the links. -/
def Document.LinkBlockOf (d : Document) (n : Node) (t : List Char) : Prop :=
  ∃ links notes images references, d.links n = .ok links ∧
    List.Forall₂ d.LineOf (shownLinks .footnoteReference links) notes ∧
    List.Forall₂ d.LineOf (shownLinks .image links) images ∧
    List.Forall₂ d.LineOf (shownLinks .reference links) references ∧
    t = lineGroup notes ++ lineGroup images ++ lineGroup references

theorem linkBlock_text {d : Document} {n : Node} (ok : (linkBlock d n).error = none) :
    d.LinkBlockOf n (linkBlock d n).text := by
  unfold linkBlock at ok ⊢
  cases listed : d.links n with
  | error e => simp [listed, Written.fail] at ok
  | ok links =>
      simp only [listed, Written.andThen_error_eq_none] at ok ⊢
      obtain ⟨⟨okNotes, okImages⟩, okReferences⟩ := ok
      obtain ⟨notes, notesOf, notesText⟩ := linkGroup_text rfl okNotes
      obtain ⟨images, imagesOf, imagesText⟩ := linkGroup_text rfl okImages
      obtain ⟨references, referencesOf, referencesText⟩ := linkGroup_text rfl okReferences
      refine ⟨links, notes, images, references, listed, notesOf, imagesOf, referencesOf, ?_⟩
      rw [Written.andThen_text_of_ok (Written.andThen_error_eq_none.mpr ⟨okNotes, okImages⟩),
        Written.andThen_text_of_ok okNotes, notesText, imagesText, referencesText]

/-! ## Hoisting once -/

/-- Every child is a footnote, or a block that hoists its links, or has no links. -/
def Document.LinksPlaced (d : Document) : Prop :=
  ∀ c ∈ d.children, c.hasTag .footnote = true ∨ c.tagIs Tag.hoists = true ∨ c.links = []

instance (d : Document) : Decidable d.LinksPlaced :=
  inferInstanceAs (Decidable (∀ c ∈ d.children, _ ∨ _ ∨ _))

/-- Whatever is written for the links of a block, it is written behind each block of a document
    that hoists its links, once, and nowhere else. -/
theorem Walk.writeWith_root {hoist : Node → Written}
    (silent : ∀ n : Node, n.links = [] → hoist n = .nothing) {d : Document}
    (placed : d.LinksPlaced) (w : Walk) :
    writeWith hoist w d.root =
      Written.andThen ⟨(w.metadata.map Metadata.header).getD [], none⟩
        (d.children.foldr (fun c behind =>
          ((w.bare c).andThen (if c.tagIs Tag.hoists then hoist c else .nothing)).andThen behind)
          .nothing) := by
  rw [Document.root, writeWith, writeAllWith_congr fun c member =>
    writeWith_block silent (placed c member)]

/-- When a document is rendered, it is the link block. -/
theorem Walk.write_block {w : Walk} {n : Node}
    (placed : n.hasTag .footnote = true ∨ n.tagIs Tag.hoists = true ∨ n.links = []) :
    w.write n = (w.bare n).andThen
      (if n.tagIs Tag.hoists then linkBlock w.document n else .nothing) := by
  rw [← writeWith_linkBlock]
  exact writeWith_block (fun _ => linkBlock_of_no_links) placed

/-- The links of a document are hoisted once, by the blocks that hold them, if they all stand in
    blocks that hoist links. Whatever stands for the links, it comes behind the text of each such
    block and nowhere else. What comes there when the document is rendered is the link block. -/
theorem links_hoisted_once {d : Document} (placed : d.LinksPlaced) {settings : Settings}
    {metadata : Option Metadata} {t : List Char} (rendered : render d settings metadata = .ok t) :
    let w : Walk := ⟨d, metadata, settings.maxHeadingLevel⟩
    (∀ hoist : Node → Written, (∀ n : Node, n.links = [] → hoist n = .nothing) →
      Walk.writeWith hoist w d.root =
        Written.andThen ⟨(metadata.map Metadata.header).getD [], none⟩
          (d.children.foldr (fun c behind =>
            ((w.bare c).andThen (if c.tagIs Tag.hoists then hoist c else .nothing)).andThen behind)
            .nothing)) ∧
    ∃ block : Node → List Char,
      t = endOnce ((metadata.map Metadata.header).getD [] ++
        d.children.flatMap fun c => (w.bare c).text ++ block c) ∧
      ∀ c ∈ d.children, (w.bare c).error = none ∧
        if c.tagIs Tag.hoists then d.LinkBlockOf c (block c) else block c = [] := by
  intro w
  refine ⟨fun hoist silent => Walk.writeWith_root silent placed w, ?_⟩
  obtain ⟨_, each, same⟩ := render_eq_ok_iff_alone.mp rendered
  have parts : ∀ c ∈ d.children, w.write c =
      (w.bare c).andThen (if c.tagIs Tag.hoists then linkBlock d c else .nothing) :=
    fun c member => Walk.write_block (placed c member)
  have ok : ∀ c ∈ d.children, (w.bare c).error = none ∧
      (if c.tagIs Tag.hoists then linkBlock d c else .nothing).error = none := by
    intro c member
    have whole := each c member
    rw [alone_eq_write, parts c member] at whole
    exact Written.andThen_error_eq_none.mp whole
  refine ⟨fun c => (if c.tagIs Tag.hoists then linkBlock d c else .nothing).text, ?_, ?_⟩
  · rw [same, List.flatMap_congr]
    intro c member
    rw [alone_eq_write, parts c member, Written.andThen_text_of_ok (ok c member).1]
  · intro c member
    obtain ⟨own, links⟩ := ok c member
    refine ⟨own, ?_⟩
    by_cases hoists : c.tagIs Tag.hoists = true
    · simp only [if_pos hoists] at links ⊢
      exact linkBlock_text links
    · simp only [if_neg hoists]
      rfl

/-- A quote with a link in each of its paragraphs, an image and a footnote. -/
theorem links_hoisted_once_quote :
    let link : Node := .element .reference { refuri := some "/x".toList } [.text ['l']]
    let image : Node := .element .image { uri := some "/i".toList, alt := some ['i'] } []
    let mark : Node := .element .footnoteReference { refid := some ['a'], noteid := some 1 } []
    let quote : Node := .element .blockQuote {}
      [.element .paragraph {} [.text ['q'], link, mark], .element .paragraph {} [link, image]]
    let note : Node := .element .footnote { ids := [['a']], noteid := some 1 }
      [.element .paragraph {} [.text ['n']]]
    let d := Document.ofChildren [quote, note]
    let t := "> ql[^1]\n\n> li\n\n[^1]: n\n\n=> /i i\n\n=> /x l\n=> /x l\n".toList
    d.LinksPlaced ∧ render d {} none = .ok t ∧
      ∃ block, d.LinkBlockOf quote block ∧
        t = endOnce ("> ql[^1]\n\n> li\n\n".toList ++ block) := by
  intro link image mark quote note d t
  have placed : d.LinksPlaced := by decide
  have rendered : render d {} none = .ok t := by
    clear placed
    dsimp only [d, quote, note, link, image, mark, t]
    cbv
  have quoted : (Walk.bare ⟨d, none, none⟩ quote).text = "> ql[^1]\n\n> li\n\n".toList := by
    clear placed rendered
    dsimp only [d, quote, note, link, image, mark]
    cbv
  have both : d.children = [quote, note] := by simp [d, Document.ofChildren]
  obtain ⟨_, block, whole, own⟩ := links_hoisted_once placed rendered
  have ofQuote : d.LinkBlockOf quote (block quote) := (own quote (by simp [both])).2
  have ofNote : block note = [] := (own note (by simp [both])).2
  refine ⟨placed, rendered, block quote, ofQuote, ?_⟩
  rw [whole, both, List.flatMap_cons, List.flatMap_singleton, ofNote]
  change endOnce ([] ++ ((Walk.bare ⟨d, none, none⟩ quote).text ++ block quote ++ ([] ++ []))) = _
  rw [quoted]
  simp

end Gemtext
