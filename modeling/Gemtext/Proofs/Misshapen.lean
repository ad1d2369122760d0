import Gemtext.Proofs.Causes
import Gemtext.Proofs.Locality
import Gemtext.Proofs.PageLines

/-! # Misshapen documents

A tree has a wrong shape where something other than an item stands in a list, where an item stands
outside of a list, and where a heading has no level. A walk refuses all of this where it comes to it
by itself, and in the lists right inside the items of a list. What else stands in an item, in a quote
or in a paragraph is composed to a text, and composing does not look at the shape.
-/

namespace Gemtext

/-- Errors about the shape of a tree. -/
def Error.isShape : Error → Bool
  | .malformed .strayListChild _ | .malformed (.headingLevel _) _ | .malformed .strayListItem _ => true
  | _ => false

/-! ## Where the shape is checked -/

namespace Node

/-- A list with something other than an item in it, or with such a list right inside an item. -/
inductive BrokenList : Node → Prop where
  | child {n c : Node} : n.tagIs Tag.isList = true → c ∈ n.children →
      c.hasTag .listItem = false → BrokenList n
  | inItem {n item c : Node} : n.tagIs Tag.isList = true → item ∈ n.children →
      c ∈ item.children → BrokenList c → BrokenList n

theorem BrokenList.isList {n : Node} (broken : n.BrokenList) : n.tagIs Tag.isList = true := by
  cases broken with
  | child isList | inItem isList => exact isList

/-- A tree in which a walk comes to a wrong shape. It goes on below a document and below elements
    that are no blocks of their own. -/
inductive Misshapen : Node → Prop where
  | strayItem {n : Node} : n.hasTag .listItem = true → Misshapen n
  | unranked {n : Node} : n.hasTag .heading = true → n.attrs.level.getD 0 < 1 → Misshapen n
  | broken {n : Node} : n.BrokenList → Misshapen n
  | inside {tag : Tag} {attrs : Attributes} {children : List Node} {c : Node} :
      tag = .document ∨ tag.isTransparent = true → c ∈ children → Misshapen c →
      Misshapen (.element tag attrs children)

end Node

/-! ## Wrong shapes are refused -/

theorem innerList_eq {n : Node} (isList : n.tagIs Tag.isList = true) (level : Nat) :
    ∃ ordered, innerList level n = listItems ordered level 1 n.children := by
  cases n with
  | text t => cases isList
  | element tag attrs items => exact ⟨_, if_pos isList⟩

section Written

variable {ordered : Bool} {level number : Nat} {n : Node} {ns : List Node}

/-- Where the items of a list are written, each of them is. -/
theorem listItem_ok (ok : (listItems ordered level number ns).error = none) (member : n ∈ ns) :
    ∃ number, (listItem ordered level number n).error = none := by
  induction ns generalizing number with
  | nil => cases member
  | cons m rest ih =>
      rw [listItems, Written.andThen_error_eq_none] at ok
      rcases List.mem_cons.mp member with rfl | behind
      · exact ⟨number, ok.1⟩
      · exact ih ok.2 behind

theorem innerList_ok (ok : (innerLists level ns).error = none) (member : n ∈ ns) :
    (innerList level n).error = none := by
  induction ns with
  | nil => cases member
  | cons m rest ih =>
      rw [innerLists, Written.andThen_error_eq_none] at ok
      rcases List.mem_cons.mp member with rfl | behind
      · exact ok.1
      · exact ih ok.2 behind

/-- Where an item is written, each list inside it is. -/
theorem innerList_ok_of_item {item : Node} (ok : (listItem ordered level number item).error = none)
    (inside : n ∈ item.children) : (innerList (level + 1) n).error = none := by
  cases item with
  | text t => cases inside
  | element tag attrs children =>
      rw [listItem] at ok
      split at ok
      · cases ok
      · split at ok
        · next empty => exact absurd inside (List.isEmpty_iff.mp empty ▸ List.not_mem_nil)
        · exact innerList_ok (Written.andThen_error_eq_none.mp ok).2 inside

/-- Writing a broken list stops, at whatever level. -/
theorem innerList_of_broken (broken : n.BrokenList) (level : Nat) :
    (innerList level n).error ≠ none := by
  induction broken generalizing level with
  | child isList member stray =>
      intro ok
      obtain ⟨ordered, same⟩ := innerList_eq isList level
      obtain ⟨number, written⟩ := listItem_ok (same ▸ ok) member
      rw [listItem_stray stray] at written
      cases written
  | inItem isList member inside _ ih =>
      intro ok
      obtain ⟨ordered, same⟩ := innerList_eq isList level
      obtain ⟨number, written⟩ := listItem_ok (same ▸ ok) member
      exact ih (level + 1) (innerList_ok_of_item written inside)

end Written

theorem not_broken_of_links_only {tag : Tag} {attrs : Attributes} {items : List Node}
    (linksOnly : isLinksOnlyList items = true) : ¬ (Node.element tag attrs items).BrokenList := by
  simp only [isLinksOnlyList, List.all_eq_true, Bool.and_eq_true] at linksOnly
  rintro (⟨_, member, stray⟩ | ⟨_, member, inside, broken⟩)
  · exact Bool.false_ne_true (stray.symm.trans (linksOnly _ member).1)
  · obtain ⟨attrs, children, rfl⟩ :=
      Node.eq_element_of_hasTag ((linksOnly _ member).2 _ inside).1
    cases broken.isList

theorem write_list {w : Walk} {tag : Tag} {attrs : Attributes} {items : List Node}
    (isList : tag.isList = true) : w.write (.element tag attrs items) =
      (if isLinksOnlyList items then Written.nothing
        else (innerList 0 (.element tag attrs items)).andThen ⟨['\n'], none⟩).andThen
        (linkBlock w.document (.element tag attrs items)) := by
  cases tag <;> first | rfl | cases isList

/-- A walk that comes to a wrong shape fails. -/
theorem write_of_misshapen {w : Walk} {n : Node} (misshapen : n.Misshapen) :
    (w.write n).error ≠ none := by
  induction misshapen with
  | @strayItem n isItem =>
      obtain ⟨attrs, children, rfl⟩ := Node.eq_element_of_hasTag isItem
      exact Option.some_ne_none _
  | @unranked n isHeading low =>
      obtain ⟨attrs, children, rfl⟩ := Node.eq_element_of_hasTag isHeading
      have stopped : (headingText w.clamp (.element .heading attrs children)).error ≠ none := by
        rw [headingText]
        simp only [if_pos low]
        exact Option.some_ne_none _
      exact stopped
  | @broken n broken =>
      cases n with
      | text t => cases broken.isList
      | element tag attrs items =>
          rw [write_list broken.isList]
          intro ok
          obtain ⟨first, _⟩ := Written.andThen_error_eq_none.mp ok
          split at first
          · next linksOnly => exact not_broken_of_links_only linksOnly broken
          · exact innerList_of_broken broken 0 (Written.andThen_error_eq_none.mp first).1
  | @inside tag attrs children c goesOn member _ ih =>
      intro ok
      have all : (w.writeAll children).error = none := by
        rcases goesOn with rfl | transparent
        · exact (Written.andThen_error_eq_none.mp ok).2
        · rwa [Walk.write_transparent transparent] at ok
      exact ih (writeAll_error_eq_none.mp all c member)

/-! ## Nothing else is refused for its shape -/

/-- An error that is not about the shape of the tree. -/
def Error.SparesShape (e : Error) : Prop := e.isShape = false

open Written

/-- Composing does not look at the shape of a tree. -/
theorem compose_sparesShape (style : Style) (inText : Bool) (n : Node) :
    FailsOnly Error.SparesShape (compose style inText n) := by
  induction n using Node.rec_strong generalizing inText with
  | text t => exact .ok _
  | element tag attrs children ih =>
      have parts (inText : Bool) : FailsOnly Error.SparesShape (composeParts style inText children) :=
        composeParts_failsOnly fun c member => ih c member inText
      cases tag with
      | footnoteReference =>
          rw [compose]
          split
          · intro e failed
            obtain ⟨_, rfl⟩ := footnoteMark_eq_error.mp failed
            rfl
          · exact .error rfl
      | hardbreak | subscript | superscript | literalBlock => exact .ok _
      | raw =>
          rw [compose, composeRaw]
          split
          · split
            · exact .error rfl
            · exact .ok _
          · exact .ok _
      | _ =>
          -- The other tags share the last case of the definition.
          rw [compose]
          · split
            · exact .ok _
            · split
              · next e failed => exact (parts _).passed failed
              · exact .ok _
          all_goals
            intro same
            cases same

theorem plainLine_sparesShape (inText : Bool) (n : Node) :
    FailsOnly Error.SparesShape (plainLine inText n) :=
  (compose_sparesShape _ _ n).map _

section Links

variable (d : Document)

theorem resolve_sparesShape (n : Node) : FailsOnly Error.SparesShape (d.resolve n) := by
  intro e failed
  rw [Document.resolve_eq_error failed]
  rfl

theorem follow_sparesShape (followed : List (List (List Char))) (links : List Node) :
    FailsOnly Error.SparesShape (d.follow followed links) := by
  fun_induction Document.follow d followed links with
  | case1 => exact .ok []
  | case2 followed link rest isNote e failed => exact (resolve_sparesShape d link).passed failed
  | case3 followed link rest isNote entry resolved old ih => exact ih.map _
  | case4 followed link rest isNote entry resolved fresh e failed ih => exact ih.passed failed
  | case5 followed link rest isNote entry resolved fresh inside within ihInside ih => exact ih.map _
  | case6 followed link rest plain ih => exact ih.map _

theorem linkLine_sparesShape (link : Node) : FailsOnly Error.SparesShape (linkLine d link) := by
  have labelled (n : Node) : FailsOnly Error.SparesShape (label false n) :=
    (compose_sparesShape _ _ n).map _
  unfold linkLine
  split
  · split
    · next e failed => exact (resolve_sparesShape d link).passed failed
    · next entry resolved =>
        split
        · exact .error rfl
        · split
          · next e failed => exact (labelled entry.node).passed failed
          · refine .map (fun e failed => ?_) _
            obtain ⟨_, rfl⟩ := footnoteLine_eq_error.mp failed
            rfl
  · generalize (if link.hasTag .image = true then link.attrs.uri else link.attrs.refuri) = uri
    have line (t : Option (List Char)) :
        FailsOnly Error.SparesShape (LinkLine.render ⟨some link, uri, t⟩) := by
      cases uri with
      | none => exact .error rfl
      | some uri => exact .ok _
    dsimp only
    split
    · next e failed => exact (labelled link).passed failed
    · split
      · exact .ok _
      · exact (line _).map _

theorem linkBlock_sparesShape (n : Node) : (linkBlock d n).FailsOnly Error.SparesShape := by
  unfold linkBlock
  split
  · next e failed => exact .fail (follow_sparesShape d [] n.links e failed)
  · next links found =>
      have group (kind : Tag) : (linkGroup d links kind).FailsOnly Error.SparesShape :=
        .ofExcept ((linkLines_failsOnly fun link _ => linkLine_sparesShape d link).map _)
      exact ((group _).andThen (group _)).andThen (group _)

end Links

theorem itemHead_sparesShape (ordered : Bool) (level number : Nat) (attrs : Attributes)
    (children : List Node) :
    (itemHead ordered level number attrs children).FailsOnly Error.SparesShape := by
  unfold itemHead
  dsimp only
  split
  · next e failed =>
      rintro _ ⟨rfl⟩
      exact compose_sparesShape _ _ _ e failed
  · exact .written _

theorem headingText_sparesShape (clamp : Option Int) {n : Node} (ranked : ¬ n.attrs.level.getD 0 < 1) :
    (headingText clamp n).FailsOnly Error.SparesShape := by
  unfold headingText
  dsimp only
  rw [if_neg ranked]
  exact .ofExcept ((plainLine_sparesShape _ n).map _)

theorem rawText_sparesShape (attrs : Attributes) (source : List Char) :
    FailsOnly Error.SparesShape (rawText attrs source) := by
  unfold rawText
  dsimp only
  split
  · exact .ok _
  · split
    · split
      · exact .error rfl
      · exact .ok _
    · exact .ok _

/-- No fault of shape is found in a list that is not broken, and none in the lists inside an item if
    none of them is broken. -/
theorem innerList_sparesShape (n : Node) :
    (¬ n.BrokenList → ∀ level, (innerList level n).FailsOnly Error.SparesShape) ∧
      ((∀ c ∈ n.children, ¬ c.BrokenList) →
        ∀ level, (innerLists level n.children).FailsOnly Error.SparesShape) := by
  have closed := closed_failsOnly Error.SparesShape
  induction n using Node.rec_strong with
  | text t => exact ⟨fun _ _ => .written [], fun _ _ => .written []⟩
  | element tag attrs children ih =>
      constructor
      · intro whole level
        rw [innerList]
        split
        · next isList =>
            refine closed.listItems (fun item member number => ?_) 1
            cases item with
            | text t => exact absurd (.child isList member rfl) whole
            | element own itemAttrs inside =>
                rw [listItem]
                split
                · next other =>
                    have stray : (Node.element own itemAttrs inside).hasTag .listItem = false := by
                      simpa [Node.hasTag, Node.tagIs, Node.tag?] using other
                    exact absurd (.child isList member stray) whole
                · split
                  · exact .written []
                  · refine .andThen (itemHead_sparesShape _ _ _ _ _) ((ih _ member).2 (fun c within => ?_) _)
                    exact fun broken => whole (.inItem isList member within broken)
        · exact .written []
      · intro whole level
        exact closed.innerLists fun c member => (ih c member).1 (whole c member) level

/-- A walk that comes to no wrong shape does not fail for one. -/
theorem write_sparesShape {w : Walk} {n : Node} (shaped : ¬ n.Misshapen) :
    (w.write n).FailsOnly Error.SparesShape := by
  have closed := closed_failsOnly Error.SparesShape
  induction n using Node.rec_strong with
  | text t => exact .written []
  | element tag attrs children ih =>
      have links := linkBlock_sparesShape w.document (.element tag attrs children)
      have inside (goesOn : tag = .document ∨ tag.isTransparent = true) :
          (w.writeAll children).FailsOnly Error.SparesShape :=
        closed.writeAll fun c member =>
          ih c member fun misshapen => shaped (.inside goesOn member misshapen)
      cases tag with
      | footnote => exact .written []
      | blockQuote =>
          exact .andThen (closed.quoteChunks fun c _ =>
            .ofExcept ((compose_sparesShape _ _ c).map _)) links
      | bulletList | enumeratedList | definitionList =>
          have items := (innerList_sparesShape _).1 (fun broken => shaped (.broken broken)) 0
          rw [write_list rfl]
          refine .andThen ?_ links
          split
          · exact .written []
          · exact items.andThen (.written _)
      | document => exact .andThen (.written _) (inside (.inl rfl))
      | heading =>
          exact headingText_sparesShape w.clamp fun low => shaped (.unranked rfl low)
      | listItem => exact absurd (.strayItem rfl) shaped
      | literalBlock | transition => exact .written _
      | paragraph =>
          refine .andThen (a := if isLinksOnlyParagraph children then _ else _) ?_ links
          split
          · exact .written []
          · exact .ofExcept ((compose_sparesShape _ _ _).map _)
      | raw => exact .ofExcept (rawText_sparesShape _ _)
      | table =>
          have cells : FailsOnly Error.SparesShape (allCells (rowsIn false children)) :=
            allCells_failsOnly fun row _ => rowCells_failsOnly fun e _ => plainLine_sparesShape _ e
          exact .andThen (.andThen (.ofExcept (.map (.map cells _) _)) (.written _)) links
      | _ => exact inside (.inr rfl)

/-! ## Rendering -/

/-- A document in which a walk comes to a wrong shape is not rendered. It is refused as malformed,
    unless something fails before that has nothing to do with its tree: a footnote reference without
    a number that can be written, or raw HTML. And a document is only refused for its shape if a walk
    comes to a wrong one. -/
theorem misshapen_is_refused (d : Document) (settings : Settings) (metadata : Option Metadata) :
    (d.root.Misshapen → ∃ e, render d settings metadata = .error e ∧
      ((∃ cause n, e = .malformed cause (some n)) ∨
        d.Explains e ∧ (e = .missing "noteid".toList ∨ e = .longNumber ∨
          ∃ cause, e = .rejected cause))) ∧
      ∀ e, render d settings metadata = .error e → e.isShape = true → d.root.Misshapen := by
  constructor
  · intro misshapen
    cases rendered : render d settings metadata with
    | ok t => exact absurd (render_eq_ok.mp rendered).2.1 (write_of_misshapen misshapen)
    | error e =>
        refine ⟨e, rfl, ?_⟩
        rcases render_error_explained rendered with ⟨n, rfl⟩ | ⟨m, held, broken⟩
        · exact .inl ⟨_, n, rfl⟩
        · cases broken with
          | strayChild | strayItem | unranked | unresolved => exact .inl ⟨_, _, rfl⟩
          | undefined isNote failed => exact .inl ⟨_, m, Document.resolve_eq_error failed⟩
          | unnumbered isNote none => exact .inr ⟨⟨m, held, .unnumbered isNote none⟩, .inl rfl⟩
          | overlong isNote given long =>
              exact .inr ⟨⟨m, held, .overlong isNote given long⟩, .inr (.inl rfl)⟩
          | refused isRaw holds =>
              exact .inr ⟨⟨m, held, .refused isRaw holds⟩, .inr (.inr ⟨_, rfl⟩)⟩
  · intro e failed isShape
    by_contra shaped
    have spared : e.SparesShape := by
      rcases render_eq_error.mp failed with deep | ⟨_, stopped⟩
      · unfold Document.checkDepth at deep
        split at deep
        · cases deep
          rfl
        · cases deep
      · exact write_sparesShape shaped e stopped
    exact Bool.false_ne_true (spared.symm.trans isShape)

/-- A paragraph in a list in an item. -/
theorem misshapen_is_refused_list :
    let paragraph := Node.element .paragraph {} [.text ['x']]
    let list (n : Node) := Node.element .bulletList {} [n]
    let d : Document := ⟨[list (.element .listItem {} [list paragraph])], []⟩
    d.root.Misshapen ∧ (∃ e, render d {} none = .error e ∧
      ((∃ cause n, e = .malformed cause (some n)) ∨
        d.Explains e ∧ (e = .missing "noteid".toList ∨ e = .longNumber ∨
          ∃ cause, e = .rejected cause))) ∧
      render d {} none = .error (.malformed .strayListChild (some paragraph)) ∧
      d.root.Misshapen := by
  intro paragraph list d
  have inner : (list paragraph).BrokenList := .child rfl List.mem_cons_self rfl
  have outer : (list (.element .listItem {} [list paragraph])).BrokenList :=
    .inItem rfl List.mem_cons_self List.mem_cons_self inner
  have misshapen : d.root.Misshapen := .inside (.inl rfl) List.mem_cons_self (.broken outer)
  have rendered : render d {} none = .error (.malformed .strayListChild (some paragraph)) := by
    rw [render_eq_error]
    exact .inr ⟨rfl, rfl⟩
  obtain ⟨refused, only⟩ := misshapen_is_refused d {} none
  exact ⟨misshapen, refused misshapen, rendered, only _ rendered rfl⟩

/-- A heading without a level, an item without a list and a list without items are rendered where
    they stand in a quote. -/
theorem misshapen_in_quote_is_rendered :
    let heading := Node.element .heading { level := some 0 } [.text ['x']]
    let item := Node.element .listItem {} [.text ['x']]
    let list := Node.element .bulletList {} [.element .paragraph {} [.text ['x']]]
    let quote (n : Node) : Document := ⟨[.element .blockQuote {} [n]], []⟩
    (heading.Misshapen ∧ render (quote heading) {} none = .ok "> x\n".toList) ∧
      (item.Misshapen ∧ render (quote item) {} none = .ok "> x\n".toList) ∧
        list.Misshapen ∧ render (quote list) {} none = .ok "> x\n".toList := by
  intro heading item list quote
  have rendered {n : Node} (shallow : (quote n).checkDepth 100 = .ok ())
      (noLinks : (Node.element .blockQuote {} [n]).links = [])
      (composed : quoteChunk n = .ok "> x\n\n".toList) :
      render (quote n) {} none = .ok "> x\n".toList := by
    have written (w : Walk) : w.write (.element .blockQuote {} [n]) = ⟨"> x\n\n".toList, none⟩ := by
      rw [Walk.write, linkBlock_of_no_links noLinks, quoteChunks, quoteChunks, composed]
      rfl
    have whole (w : Walk) : w.write (quote n).root =
        Written.andThen ⟨(w.metadata.map Metadata.header).getD [], none⟩
          ((w.write (.element .blockQuote {} [n])).andThen .nothing) := rfl
    rw [render_eq_ok, whole, written]
    exact ⟨shallow, rfl, rfl⟩
  exact ⟨⟨.unranked rfl (by decide), rendered rfl rfl rfl⟩,
    ⟨.strayItem rfl, rendered rfl rfl rfl⟩,
    .broken (.child rfl List.mem_cons_self rfl), rendered rfl rfl rfl⟩

end Gemtext
