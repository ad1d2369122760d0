import Gemtext.Proofs.Causes
import Gemtext.Proofs.Register

/-! # Sound documents

A document is sound if every node of it, and of the definitions in its register, is what a walk
takes it for: lists hold items and nothing else does, headings have a level, links have a
destination, and footnote references have a number that can be written and point to a definition
that is registered.

Of a sound document that is not too deep, only raw HTML that is refused can keep a walk from ending.
-/

namespace Gemtext

open Text

/-! ## Sound nodes -/

/-- What an element needs besides its children. `known` are the ids of the definitions that
    footnote references may point to. -/
def Attributes.Serve (known : List (List Char)) (tag : Tag) (attrs : Attributes) : Prop :=
  match tag with
  | .heading => ∃ level, attrs.level = some level ∧ 1 ≤ level
  | .reference => ∃ uri, attrs.refuri = some uri
  | .image => ∃ uri, attrs.uri = some uri
  | .footnoteReference =>
      (∃ number, attrs.noteid = some number ∧ IsWritable number) ∧ ∃ id ∈ known, attrs.refid = some id
  | _ => True

/-- A tree whose elements have what they need, and in which items stand in lists, and nothing
    else does. -/
inductive Node.Sound (known : List (List Char)) : Node → Prop where
  | text (t : List Char) : Sound known (.text t)
  | element {tag : Tag} {attrs : Attributes} {children : List Node}
      (serve : attrs.Serve known tag)
      (items : ∀ c ∈ children, c.hasTag .listItem = tag.isList)
      (inside : ∀ c ∈ children, Sound known c) : Sound known (.element tag attrs children)

namespace Node.Sound

variable {known : List (List Char)} {tag : Tag} {attrs : Attributes} {children : List Node}

theorem serve (h : (Node.element tag attrs children).Sound known) : attrs.Serve known tag := by
  cases h with
  | element serve _ _ => exact serve

theorem serve_of_hasTag {n : Node} (h : n.Sound known) (isTag : n.hasTag tag = true) :
    n.attrs.Serve known tag := by
  obtain ⟨attrs, children, rfl⟩ := eq_element_of_hasTag isTag
  exact h.serve

theorem items (h : (Node.element tag attrs children).Sound known) :
    ∀ c ∈ children, c.hasTag .listItem = tag.isList := by
  cases h with
  | element _ items _ => exact items

theorem inside (h : (Node.element tag attrs children).Sound known) :
    ∀ c ∈ children, c.Sound known := by
  cases h with
  | element _ _ inside => exact inside

theorem at? {n m : Node} (h : n.Sound known) {path : Path} (located : n.at? path = some m) :
    m.Sound known := by
  induction path generalizing n with
  | nil =>
      cases located
      exact h
  | cons i rest ih =>
      obtain ⟨c, child, below⟩ := Option.bind_eq_some_iff.mp located
      have member := List.mem_of_getElem? child
      cases n with
      | text t => cases member
      | element tag attrs children => exact ih (h.inside c member) below

end Node.Sound

theorem Node.isReference_of_isLink {n : Node} (isLink : n.tagIs Tag.isLink = true)
    (noNote : ¬n.hasTag .footnoteReference = true) (noImage : ¬n.hasTag .image = true) :
    n.hasTag .reference = true := by
  cases n with
  | text t => cases isLink
  | element tag attrs children =>
      cases tag with
      | reference => rfl
      | footnoteReference => exact absurd rfl noNote
      | image => exact absurd rfl noImage
      | _ => cases isLink

/-! ## Sound documents -/

namespace Document

/-- A document whose blocks and registered definitions are sound, and that knows all the ids its
    footnote references point to. -/
structure Sound (d : Document) : Prop where
  blocks : ∀ c ∈ d.children, c.Sound d.ids ∧ c.hasTag .listItem = false
  notes : ∀ entry ∈ d.definitions, entry.node.Sound d.ids

variable {d : Document}

theorem mem_ids {id : List Char} : id ∈ d.ids ↔ ∃ entry, d.definition? id = some entry := by
  rw [← Option.isSome_iff_exists, definition?, List.find?_isSome, ids, List.mem_flatMap]
  simp only [List.contains_iff_mem]

theorem resolve_of_sound {n : Node} (sound : n.Sound d.ids)
    (isNote : n.hasTag .footnoteReference = true) : ∃ entry, d.resolve n = .ok entry := by
  obtain ⟨_, id, member, refers⟩ := sound.serve_of_hasTag isNote
  obtain ⟨entry, held⟩ := mem_ids.mp member
  exact ⟨entry, resolve_eq_ok.mpr ⟨id, refers, held⟩⟩

/-- What stands in a sound document is sound. -/
theorem Sound.held (sound : d.Sound) {m : Node} (held : d.Holds m) : m.Sound d.ids := by
  have root : d.root.Sound d.ids :=
    .element trivial (fun c member => (sound.blocks c member).2) fun c member =>
      (sound.blocks c member).1
  rcases held with ⟨path, located⟩ | ⟨entry, member, path, located⟩
  · exact root.at? located
  · exact (sound.notes entry member).at? located

end Document

/-- A sound node fails only if it is raw HTML that is refused. -/
theorem Node.Sound.rejected_of_breaks {d : Document} {m : Node} (sound : m.Sound d.ids) {e : Error}
    (broken : m.Breaks d e) : ∃ cause, e = .rejected cause ∧ m.hasTag .raw = true ∧
      Html.Refused m.source cause := by
  cases broken with
  | strayChild isList member noItem =>
      rw [sound.items _ member, isList] at noItem
      cases noItem
  | strayItem noList member isItem =>
      rw [sound.items _ member, noList] at isItem
      cases isItem
  | unranked isHeading given low =>
      obtain ⟨level, ranked, positive⟩ := sound.serve_of_hasTag isHeading
      rw [ranked, Option.getD_some] at given
      omega
  | unresolved isLink noNote missing =>
      by_cases isImage : m.hasTag .image = true
      · obtain ⟨uri, given⟩ := sound.serve_of_hasTag isImage
        rw [if_pos isImage, given] at missing
        cases missing
      · have isReference := isReference_of_isLink isLink (Bool.eq_false_iff.mp noNote) isImage
        obtain ⟨uri, given⟩ := sound.serve_of_hasTag isReference
        rw [if_neg isImage, given] at missing
        cases missing
  | undefined isNote failed =>
      obtain ⟨entry, resolved⟩ := Document.resolve_of_sound sound isNote
      cases resolved.symm.trans failed
  | unnumbered isNote missing =>
      obtain ⟨⟨number, given, _⟩, _⟩ := sound.serve_of_hasTag isNote
      cases given.symm.trans missing
  | overlong isNote numbered long =>
      obtain ⟨⟨number, given, short⟩, _⟩ := sound.serve_of_hasTag isNote
      obtain rfl := Option.some.inj (given.symm.trans numbered)
      exact absurd short long
  | refused isRaw holds => exact ⟨_, rfl, isRaw, holds⟩

/-- Rendering a sound document only fails if it is too deep, or where raw HTML in it is refused. -/
theorem render_error_of_sound {d : Document} (sound : d.Sound) {settings : Settings}
    {metadata : Option Metadata} {e : Error} (failed : render d settings metadata = .error e) :
    (∃ n, e = .malformed (.tooDeep settings.maxNestingDepth) (some n)) ∨
      ∃ cause, e = .rejected cause ∧
        ∃ m, d.Holds m ∧ m.hasTag .raw = true ∧ Html.Refused m.source cause := by
  rcases render_error_explained failed with deep | ⟨m, held, broken⟩
  · exact .inl deep
  · obtain ⟨cause, same, isRaw, refused⟩ := (sound.held held).rejected_of_breaks broken
    exact .inr ⟨cause, same, m, held, isRaw, refused⟩

end Gemtext
