import Gemtext.Proofs.RefusedMarkup
import Gemtext.Proofs.Subtree
import Gemtext.Proofs.Written

/-! # Causes of failures

A rendering fails because the document is too deep, or because of a single element in it: a list
with something other than an item in it or an item in something other than a list, a heading
without a level, a link without a destination, a footnote reference without a number that can be
written or without a definition, or raw HTML with something in it that is refused.
-/

namespace Gemtext

open Text

/-! ## Causes -/

/-- Raw HTML with something that is refused outside its denied elements: a section with a bad
    keyword, or a decimal reference with too many digits. -/
def Html.Refused (html : List Char) (cause : Html.Rejection) : Prop :=
  HoldsRefused (joinLines [' '] (removeDenied html)) cause

/-- Why an element fails by itself, or by what stands right inside it. -/
inductive Node.Breaks (d : Document) : Node → Error → Prop where
  | strayChild {tag : Tag} {attrs : Attributes} {children : List Node} {c : Node} :
      tag.isList = true → c ∈ children → c.hasTag .listItem = false →
      Breaks d (.element tag attrs children) (.malformed .strayListChild (some c))
  | strayItem {tag : Tag} {attrs : Attributes} {children : List Node} {c : Node} :
      tag.isList = false → c ∈ children → c.hasTag .listItem = true →
      Breaks d (.element tag attrs children) (.malformed .strayListItem (some c))
  | unranked {n : Node} {level : Int} : n.hasTag .heading = true →
      n.attrs.level.getD 0 = level → level < 1 →
      Breaks d n (.malformed (.headingLevel level) (some n))
  | unresolved {n : Node} : n.tagIs Tag.isLink = true → n.hasTag .footnoteReference = false →
      (if n.hasTag .image then n.attrs.uri else n.attrs.refuri) = none →
      Breaks d n (.malformed .unresolvedLink (some n))
  | undefined {n : Node} {e : Error} : n.hasTag .footnoteReference = true →
      d.resolve n = .error e → Breaks d n e
  | unnumbered {n : Node} : n.hasTag .footnoteReference = true → n.attrs.noteid = none →
      Breaks d n (.missing "noteid".toList)
  | overlong {n : Node} {number : Int} : n.hasTag .footnoteReference = true →
      n.attrs.noteid = some number → ¬ IsWritable number → Breaks d n .longNumber
  | refused {n : Node} {cause : Html.Rejection} : n.hasTag .raw = true →
      Html.Refused n.source cause → Breaks d n (.rejected cause)

/-- A node below a node of a tree stands in the tree. -/
theorem Node.at?_append {n m k : Node} {path below : Path} (located : n.at? path = some m)
    (found : m.at? below = some k) : n.at? (path ++ below) = some k := by
  induction path generalizing n with
  | nil =>
      cases located
      exact found
  | cons i rest ih =>
      obtain ⟨c, child, behind⟩ := Option.bind_eq_some_iff.mp located
      exact Option.bind_eq_some_iff.mpr ⟨c, child, ih behind⟩

namespace Document

/-- A node stands in the tree of a document, or in a footnote definition that is registered. -/
def Holds (d : Document) (m : Node) : Prop :=
  (∃ path, d.root.at? path = some m) ∨
    ∃ entry ∈ d.definitions, ∃ path, entry.node.at? path = some m

/-- All nodes of a tree stand in a document. -/
def Covers (d : Document) (n : Node) : Prop := ∀ path m, n.at? path = some m → d.Holds m

/-- Some node of the document is the reason of an error. -/
def Explains (d : Document) (e : Error) : Prop := ∃ m, d.Holds m ∧ m.Breaks d e

variable {d : Document}

theorem covers_root : d.Covers d.root := fun path _ located => .inl ⟨path, located⟩

theorem covers_definition {entry : Definition} (member : entry ∈ d.definitions) :
    d.Covers entry.node :=
  fun path _ located => .inr ⟨entry, member, path, located⟩

theorem Covers.of_child {tag : Tag} {attrs : Attributes} {children : List Node} {c : Node}
    (h : d.Covers (.element tag attrs children)) (member : c ∈ children) : d.Covers c := by
  intro path m located
  obtain ⟨path', found⟩ := Node.at?_child member located
  exact h path' m found

theorem Covers.links {n link : Node} (h : d.Covers n) (member : link ∈ n.links) : d.Covers link := by
  obtain ⟨path, located, _⟩ := Node.mem_links.mp member
  intro below m found
  exact h (path ++ below) m (Node.at?_append located found)

theorem Covers.explains {n : Node} (h : d.Covers n) {e : Error} (broken : n.Breaks d e) :
    d.Explains e :=
  ⟨n, h [] n rfl, broken⟩

end Document

/-- A result that fails for an explained reason only. -/
def Explained (d : Document) {α : Type} (r : Except Error α) : Prop :=
  ∀ e, r = .error e → d.Explains e

/-- Writing that stops for an explained reason only. -/
def Written.Explained (d : Document) (w : Written) : Prop := ∀ e, w.error = some e → d.Explains e

section Results

variable {d : Document} {α β : Type}

theorem Explained.ok (a : α) : Explained d (.ok a) := FailsOnly.ok a

theorem Explained.map {r : Except Error α} (h : Explained d r) (f : α → β) :
    Explained d (r.map f) :=
  FailsOnly.map h f

theorem Explained.passed {r : Except Error α} (h : Explained d r) {e : Error}
    (failed : r = .error e) : Explained d (.error e : Except Error β) :=
  FailsOnly.passed h failed

theorem Explained.error {e : Error} (h : d.Explains e) : Explained d (.error e : Except Error α) :=
  FailsOnly.error h

end Results

namespace Written

variable {d : Document}

theorem Explained.written (t : List Char) : Explained d ⟨t, none⟩ :=
  fun _ failed => nomatch failed

theorem Explained.nothing : nothing.Explained d := .written []

theorem Explained.ofExcept {r : Except Error (List Char)} (h : Gemtext.Explained d r) :
    (ofExcept r).Explained d :=
  FailsOnly.ofExcept h

theorem Explained.fail {e : Error} (h : d.Explains e) : (fail e).Explained d := FailsOnly.fail h

theorem Explained.andThen {a b : Written} (ha : a.Explained d) (hb : b.Explained d) :
    (a.andThen b).Explained d :=
  FailsOnly.andThen ha hb

theorem closed_explained (d : Document) : Closed (Explained d) := closed_failsOnly d.Explains

end Written

open Written

/-! ## Composing -/

section Compose

variable {d : Document}

theorem composeRaw_explained {style : Style} {inText : Bool} {attrs : Attributes}
    {children : List Node} (covered : d.Covers (.element .raw attrs children)) :
    Explained d (composeRaw style inText attrs (Node.element .raw attrs children).source) := by
  unfold composeRaw
  split
  · split
    · next cause failed =>
        exact .error (covered.explains (.refused rfl (Html.plainText_error failed)))
    · exact .ok _
  · exact .ok _

theorem compose_explained {n : Node} (covered : d.Covers n) (style : Style) (inText : Bool) :
    Explained d (compose style inText n) := by
  induction n using Node.rec_strong generalizing inText with
  | text t => exact .ok _
  | element tag attrs children ih =>
      have parts (inText : Bool) : Explained d (composeParts style inText children) :=
        composeParts_failsOnly fun c member => ih c member (covered.of_child member) inText
      cases tag with
      | footnoteReference =>
          rw [compose]
          split
          · next number numbered =>
              intro e failed
              obtain ⟨long, rfl⟩ := footnoteMark_eq_error.mp failed
              exact covered.explains (.overlong rfl numbered long)
          · next unnumbered => exact .error (covered.explains (.unnumbered rfl unnumbered))
      | hardbreak | subscript | superscript | literalBlock => exact .ok _
      | raw => exact composeRaw_explained covered
      | _ =>
          -- The other tags share the last case of the definition.
          rw [compose]
          · split
            · exact .ok _
            · split
              · next e failed => exact (parts _).passed failed
              · exact .ok _
          all_goals
            intro same
            cases same

theorem plainLine_explained {n : Node} (covered : d.Covers n) (inText : Bool) :
    Explained d (plainLine inText n) :=
  (compose_explained covered _ _).map _

theorem label_explained {n : Node} (covered : d.Covers n) (inText : Bool) :
    Explained d (label inText n) :=
  (compose_explained covered _ _).map _

end Compose

/-! ## Links -/

section Links

variable {d : Document}

theorem resolve_explained {n : Node} (covered : d.Covers n)
    (isNote : n.hasTag .footnoteReference = true) : Explained d (d.resolve n) :=
  fun _ failed => covered.explains (.undefined isNote failed)

/-- Links are listed from what stands in the document. -/
theorem follow_explained {links : List Node} (covered : ∀ link ∈ links, d.Covers link)
    (followed : List (List (List Char))) : Explained d (d.follow followed links) ∧
      ∀ found, d.follow followed links = .ok found → ∀ link ∈ found, d.Covers link := by
  fun_induction Document.follow d followed links with
  | case1 =>
      refine ⟨.ok [], ?_⟩
      rintro _ ⟨rfl⟩ link member
      cases member
  | case2 followed link rest isNote e failed =>
      have own := covered link List.mem_cons_self
      exact ⟨(resolve_explained own isNote).passed failed, fun _ listed => by cases listed⟩
  | case3 followed link rest isNote entry resolved old ih =>
      obtain ⟨own, others⟩ := List.forall_mem_cons.mp covered
      obtain ⟨explained, listed⟩ := ih others
      refine ⟨explained.map _, fun found ok => ?_⟩
      obtain ⟨more, behind, rfl⟩ := map_eq_ok.mp ok
      exact List.forall_mem_cons.mpr ⟨own, listed more behind⟩
  | case4 followed link rest isNote entry resolved fresh e failed ih =>
      have definition := Document.covers_definition (Document.resolve_mem resolved)
      obtain ⟨explained, _⟩ := ih fun link member => definition.links member
      exact ⟨explained.passed failed, fun _ listed => by cases listed⟩
  | case5 followed link rest isNote entry resolved fresh inside within ihInside ih =>
      have definition := Document.covers_definition (Document.resolve_mem resolved)
      obtain ⟨own, others⟩ := List.forall_mem_cons.mp covered
      obtain ⟨_, entered⟩ := ihInside fun link member => definition.links member
      obtain ⟨explained, listed⟩ := ih others
      refine ⟨explained.map _, fun found ok => ?_⟩
      obtain ⟨more, behind, rfl⟩ := map_eq_ok.mp ok
      exact List.forall_mem_cons.mpr ⟨own, List.forall_mem_append.mpr
        ⟨entered inside within, listed more behind⟩⟩
  | case6 followed link rest plain ih =>
      obtain ⟨own, others⟩ := List.forall_mem_cons.mp covered
      obtain ⟨explained, listed⟩ := ih others
      refine ⟨explained.map _, fun found ok => ?_⟩
      obtain ⟨more, behind, rfl⟩ := map_eq_ok.mp ok
      exact List.forall_mem_cons.mpr ⟨own, listed more behind⟩

theorem linkLine_explained {link : Node} (covered : d.Covers link)
    (isLink : link.tagIs Tag.isLink = true) : Explained d (linkLine d link) := by
  unfold linkLine
  split
  · next isNote =>
      split
      · next e failed => exact (resolve_explained covered isNote).passed failed
      · next entry resolved =>
          split
          · next unnumbered => exact .error (covered.explains (.unnumbered isNote unnumbered))
          · next number numbered =>
              have definition := Document.covers_definition (Document.resolve_mem resolved)
              split
              · next e failed => exact (label_explained definition false).passed failed
              · refine .map (fun e failed => ?_) _
                obtain ⟨long, rfl⟩ := footnoteLine_eq_error.mp failed
                exact covered.explains (.overlong isNote numbered long)
  · next noNote =>
      have labelled := label_explained covered false
      have plain : link.hasTag .footnoteReference = false := Bool.not_eq_true _ ▸ noNote
      generalize given :
        (if link.hasTag .image = true then link.attrs.uri else link.attrs.refuri) = uri
      have line (t : Option (List Char)) : Explained d (LinkLine.render ⟨some link, uri, t⟩) := by
        cases uri with
        | none => exact .error (covered.explains (.unresolved isLink plain given))
        | some uri => exact .ok _
      dsimp only
      split
      · next e failed => exact labelled.passed failed
      · split
        · exact .ok _
        · exact (line _).map _

theorem linkGroup_explained {links : List Node} (covered : ∀ link ∈ links, d.Covers link)
    {kind : Tag} (isLink : kind.isLink = true) : (linkGroup d links kind).Explained d := by
  refine .ofExcept (.map (linkLines_failsOnly fun link member => ?_) _)
  obtain ⟨inside, hasKind⟩ := List.mem_filter.mp member
  exact linkLine_explained (covered link inside) (Node.tagIs_of_hasTag hasKind isLink)

theorem linkBlock_explained {n : Node} (covered : d.Covers n) : (linkBlock d n).Explained d := by
  obtain ⟨listed, held⟩ := follow_explained (fun link member => covered.links member) []
  unfold linkBlock
  split
  · next e failed => exact .fail (listed e failed)
  · next links found =>
      have group {kind : Tag} (isLink : kind.isLink = true) :=
        linkGroup_explained (held links found) isLink
      exact ((group rfl).andThen (group rfl)).andThen (group rfl)

end Links

/-! ## Blocks -/

section Blocks

variable {d : Document}

theorem itemHead_explained (ordered : Bool) (level number : Nat) {attrs : Attributes}
    {children : List Node} (covered : d.Covers (.element .listItem attrs children)) :
    (itemHead ordered level number attrs children).Explained d := by
  have composed := compose_explained covered {} false
  unfold itemHead
  dsimp only
  split
  · next e failed =>
      rintro _ ⟨rfl⟩
      exact composed e failed
  · exact .written _

theorem listItem_stray {ordered : Bool} {level number : Nat} {c : Node}
    (stray : c.hasTag .listItem = false) :
    listItem ordered level number c = .fail (.malformed .strayListChild (some c)) := by
  cases c with
  | text t => rfl
  | element tag attrs children =>
      rw [listItem, if_pos]
      rintro rfl
      cases stray

/-- A child of a list is written as an item, or the list is broken. -/
theorem listChild_explained {tag : Tag} {attrs : Attributes} {children : List Node} {c : Node}
    (covered : d.Covers (.element tag attrs children)) (isList : tag.isList = true)
    (member : c ∈ children) {ordered : Bool} {level number : Nat}
    (item : c.hasTag .listItem = true → (listItem ordered level number c).Explained d) :
    (listItem ordered level number c).Explained d := by
  by_cases isItem : c.hasTag .listItem = true
  · exact item isItem
  · have noItem : c.hasTag .listItem = false := Bool.not_eq_true _ ▸ isItem
    rw [listItem_stray noItem]
    exact .fail (covered.explains (.strayChild isList member noItem))

/-- An item is written with the lists inside it, and so is a list inside an item. -/
theorem listItem_explained {n : Node} (covered : d.Covers n) :
    (n.hasTag .listItem = true →
      ∀ ordered level number, (listItem ordered level number n).Explained d) ∧
      ∀ level, (innerList level n).Explained d := by
  induction n using Node.rec_strong with
  | text t => exact ⟨fun isItem => Bool.noConfusion isItem, fun _ => .nothing⟩
  | element tag attrs children ih =>
      have inside {c : Node} (member : c ∈ children) := ih c member (covered.of_child member)
      constructor
      · intro isItem ordered level number
        obtain rfl : tag = .listItem := by simpa [Node.hasTag, Node.tagIs, Node.tag?] using isItem
        rw [listItem, if_neg (fun other => other rfl)]
        split
        · exact .nothing
        · exact (itemHead_explained _ _ _ covered).andThen
            ((closed_explained d).innerLists fun c member => (inside member).2 _)
      · intro level
        rw [innerList]
        split
        · next isList =>
            exact (closed_explained d).listItems (fun c member number =>
              listChild_explained covered isList member fun isItem =>
                (inside member).1 isItem _ _ _) 1
        · exact .nothing

theorem rowsIn_covered {children : List Node}
    (ih : ∀ c ∈ children, ∀ inHead, ∀ row ∈ rowsOf inHead c, ∀ e ∈ row.2, d.Covers e)
    (inHead : Bool) : ∀ row ∈ rowsIn inHead children, ∀ e ∈ row.2, d.Covers e := by
  induction children with
  | nil => exact fun _ member => nomatch member
  | cons c rest tail =>
      exact List.forall_mem_append.mpr ⟨ih c List.mem_cons_self inHead,
        tail fun m member => ih m (List.mem_cons_of_mem c member)⟩

theorem rowsOf_covered {n : Node} (covered : d.Covers n) (inHead : Bool) :
    ∀ row ∈ rowsOf inHead n, ∀ e ∈ row.2, d.Covers e := by
  induction n using Node.rec_strong generalizing inHead with
  | text t => exact fun _ member => nomatch member
  | element tag attrs children ih =>
      rw [rowsOf]
      refine List.forall_mem_append.mpr ⟨fun row member => ?_, rowsIn_covered (fun c member inHead =>
        ih c member (covered.of_child member) inHead) _⟩
      split at member
      · obtain rfl := List.mem_singleton.mp member
        exact fun e inside => covered.of_child inside
      · cases member

theorem headingText_explained (clamp : Option Int) {n : Node} (covered : d.Covers n)
    (isHeading : n.hasTag .heading = true) : (headingText clamp n).Explained d := by
  unfold headingText
  dsimp only
  split
  · next low => exact .fail (covered.explains (.unranked isHeading rfl low))
  · exact .ofExcept ((plainLine_explained covered false).map _)

theorem rawText_explained {attrs : Attributes} {children : List Node}
    (covered : d.Covers (.element .raw attrs children)) :
    Explained d (rawText attrs (Node.element .raw attrs children).source) := by
  unfold rawText
  dsimp only
  split
  · exact .ok _
  · split
    · split
      · next cause failed =>
          exact .error (covered.explains (.refused rfl (Html.plainText_error failed)))
      · exact .ok _
    · exact .ok _

end Blocks

/-! ## Walks -/

/-- A child of an element that is no list is written as a block, or the element is broken. -/
theorem child_explained {w : Walk} {tag : Tag} {attrs : Attributes} {children : List Node} {c : Node}
    (covered : w.document.Covers (.element tag attrs children)) (noList : tag.isList = false)
    (member : c ∈ children)
    (block : c.hasTag .listItem = false → (w.write c).Explained w.document) :
    (w.write c).Explained w.document := by
  by_cases isItem : c.hasTag .listItem = true
  · have stray : w.write c = .fail (.malformed .strayListItem (some c)) := by
      obtain ⟨attrs, children, rfl⟩ := Node.eq_element_of_hasTag isItem
      rfl
    rw [stray]
    exact .fail (covered.explains (.strayItem noList member isItem))
  · exact block (Bool.not_eq_true _ ▸ isItem)

/-- A walk over a node of a document stops for an explained reason only. -/
theorem write_explained {w : Walk} {n : Node} (covered : w.document.Covers n)
    (noItem : n.hasTag .listItem = false) : (w.write n).Explained w.document := by
  have closed := closed_explained w.document
  induction n using Node.rec_strong with
  | text t => exact .nothing
  | element tag attrs children ih =>
      have child {c : Node} (member : c ∈ children) := covered.of_child member
      have links := linkBlock_explained covered
      have inside (noList : tag.isList = false) : (w.writeAll children).Explained w.document :=
        closed.writeAll fun c member =>
          child_explained covered noList member (ih c member (child member))
      cases tag with
      | footnote => exact .nothing
      | blockQuote =>
          exact .andThen (closed.quoteChunks fun c member =>
            .ofExcept ((compose_explained (child member) _ _).map _)) links
      | bulletList | enumeratedList | definitionList =>
          have items (ordered : Bool) : (listItems ordered 0 1 children).Explained w.document :=
            closed.listItems (fun c member number =>
              listChild_explained covered rfl member fun isItem =>
                (listItem_explained (child member)).1 isItem _ _ number) 1
          refine .andThen (a := if isLinksOnlyList children then _ else _) ?_ links
          split
          · exact .nothing
          · exact (items _).andThen (.written _)
      | document => exact .andThen (.written _) (inside rfl)
      | heading => exact headingText_explained _ covered rfl
      | listItem => cases noItem
      | literalBlock | transition => exact .written _
      | paragraph =>
          refine .andThen (a := if isLinksOnlyParagraph children then _ else _) ?_ links
          split
          · exact .nothing
          · exact .ofExcept ((compose_explained covered _ _).map _)
      | raw => exact .ofExcept (rawText_explained covered)
      | table =>
          have cells := rowsIn_covered (fun c member => rowsOf_covered (child member)) false
          have drawn : Explained w.document (allCells (rowsIn false children)) :=
            allCells_failsOnly fun row member => rowCells_failsOnly fun e inside =>
              plainLine_explained (cells row member e inside) false
          exact .andThen (.andThen (.ofExcept (.map (.map drawn _) _)) (.written _)) links
      | _ => exact inside rfl

/-- A rendering fails because the document is too deep, or because of one of its nodes. -/
theorem render_error_explained {d : Document} {settings : Settings} {metadata : Option Metadata}
    {e : Error} (failed : render d settings metadata = .error e) :
    (∃ n, e = .malformed (.tooDeep settings.maxNestingDepth) (some n)) ∨ d.Explains e := by
  rcases render_eq_error.mp failed with deep | ⟨_, stopped⟩
  · unfold Document.checkDepth at deep
    split at deep
    · next n _ => exact .inl ⟨n, (Except.error.inj deep).symm⟩
    · cases deep
  · let w : Walk := ⟨d, metadata, settings.maxHeadingLevel⟩
    have walked : (w.write d.root).Explained d := write_explained Document.covers_root rfl
    exact .inr (walked e stopped)

end Gemtext
