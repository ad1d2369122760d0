import Gemtext.Proofs.Register
import Gemtext.Proofs.Written

/-! # Descriptions of images

An image that has children is composed from them, and its description is not read, unless it
stands in an element that is read as its source text. Two documents that differ only in such
descriptions render alike: to the same text, or to errors that say the same.
-/

namespace Gemtext

/-! ## Results that say the same -/

/-- What is said about a malformed tree depends on the name of the node only. -/
theorem message_malformed (cause : Malformation) {n n' : Node} (name : n.name = n'.name) :
    (Error.malformed cause (some n)).message = (Error.malformed cause (some n')).message := by
  unfold Error.message
  simp only [name]

/-- Two results are alike if they hold related values, or fail with errors of one message. -/
inductive Alike {α : Type} (same : α → α → Prop) : Except Error α → Except Error α → Prop where
  | ok {a b : α} : same a b → Alike same (.ok a) (.ok b)
  | error {e e' : Error} : e.message = e'.message → Alike same (.error e) (.error e')

namespace Alike

variable {α β : Type} {same : α → α → Prop} {same' : β → β → Prop} {r r' : Except Error α}

theorem bind (h : Alike same r r') {f f' : α → Except Error β}
    (inside : ∀ a b, same a b → Alike same' (f a) (f' b)) : Alike same' (r.bind f) (r'.bind f') := by
  cases h with
  | ok related => exact inside _ _ related
  | error message => exact .error message

theorem map (h : Alike same r r') {f f' : α → β} (inside : ∀ a b, same a b → same' (f a) (f' b)) :
    Alike same' (r.map f) (r'.map f') := by
  cases h with
  | ok related => exact .ok (inside _ _ related)
  | error message => exact .error message

theorem of_eq (h : r = r') : Alike Eq r r' := by
  subst h
  cases r with
  | ok a => exact .ok rfl
  | error e => exact .error rfl

theorem symm (h : Alike Eq r r') : Alike Eq r' r := by
  cases h with
  | ok related => exact .ok related.symm
  | error message => exact .error message.symm

theorem trans {r'' : Except Error α} (h : Alike Eq r r') (h' : Alike Eq r' r'') : Alike Eq r r'' := by
  cases h with
  | ok related => exact related ▸ h'
  | error message =>
      cases h' with
      | error message' => exact .error (message.trans message')

theorem mapError_eq (h : Alike Eq r r') : r.mapError Error.message = r'.mapError Error.message := by
  cases h with
  | ok related => rw [related]
  | error message => exact congrArg Except.error message

end Alike

namespace Written

/-- Two writings are alike if they wrote the same and stopped for reasons of one message. -/
structure Alike (a b : Written) : Prop where
  text : a.text = b.text
  error : a.error.map Error.message = b.error.map Error.message

namespace Alike

variable {a b a' b' : Written}

theorem refl (a : Written) : a.Alike a := ⟨rfl, rfl⟩

theorem symm (h : a.Alike b) : b.Alike a := ⟨h.text.symm, h.error.symm⟩

theorem trans (h : a.Alike b) (h' : b.Alike a') : a.Alike a' :=
  ⟨h.text.trans h'.text, h.error.trans h'.error⟩

theorem fail {e e' : Error} (message : e.message = e'.message) :
    (Written.fail e).Alike (.fail e') :=
  ⟨rfl, congrArg some message⟩

theorem error_eq_none (h : a.Alike b) : a.error = none ↔ b.error = none := by
  rw [← Option.map_eq_none_iff (f := Error.message), h.error, Option.map_eq_none_iff]

theorem andThen (first : a.Alike a') (second : b.Alike b') :
    (a.andThen b).Alike (a'.andThen b') where
  text := by
    rw [andThen_text, andThen_text, first.text, second.text]
    simp only [first.error_eq_none]
  error := by
    rw [andThen_error, andThen_error, Option.map_or, Option.map_or, first.error, second.error]

theorem ofExcept {r r' : Except Error (List Char)} (h : Gemtext.Alike Eq r r') :
    (Written.ofExcept r).Alike (.ofExcept r') := by
  cases h with
  | ok related => exact related ▸ refl _
  | error message => exact fail message

end Alike

end Written

/-! ## Trees without descriptions -/

/-- Elements that are read as their source text, in which an image stands for its description. -/
def Tag.readsSource : Tag → Bool
  | raw | literalBlock | subscript | superscript => true
  | _ => false

/-- The attributes of an element with these children, without a description that is not read. -/
def Attributes.undescribed (tag : Tag) (children : List Node) (attrs : Attributes) : Attributes :=
  if tag = .image ∧ children ≠ [] then { attrs with alt := none } else attrs

namespace Node

mutual
/-- A tree without the descriptions of images that have children, except where the source text
    of an element is read. -/
def undescribed : Node → Node
  | text t => text t
  | element tag attrs children =>
      if tag.readsSource then element tag attrs children
      else element tag (attrs.undescribed tag children) (undescribedAll children)

def undescribedAll : List Node → List Node
  | [] => []
  | n :: rest => undescribed n :: undescribedAll rest
end

theorem undescribedAll_eq_map (ns : List Node) : undescribedAll ns = ns.map undescribed := by
  induction ns with
  | nil => rfl
  | cons n rest ih => rw [undescribedAll, ih, List.map_cons]

theorem undescribed_source {tag : Tag} (reads : tag.readsSource = true) (attrs : Attributes)
    (children : List Node) : (element tag attrs children).undescribed = element tag attrs children := by
  rw [undescribed, if_pos reads]

theorem undescribed_element {tag : Tag} (reads : tag.readsSource = false) (attrs : Attributes)
    (children : List Node) :
    (element tag attrs children).undescribed =
      element tag (attrs.undescribed tag children) (children.map undescribed) := by
  rw [undescribed, reads, undescribedAll_eq_map]
  rfl

@[simp] theorem tag?_undescribed (n : Node) : n.undescribed.tag? = n.tag? := by
  cases n with
  | text t => rfl
  | element tag attrs children =>
      rw [undescribed]
      split <;> rfl

@[simp] theorem tagIs_undescribed (p : Tag → Bool) (n : Node) :
    n.undescribed.tagIs p = n.tagIs p := by
  rw [tagIs, tag?_undescribed, tagIs]

@[simp] theorem hasTag_undescribed (tag : Tag) (n : Node) :
    n.undescribed.hasTag tag = n.hasTag tag :=
  tagIs_undescribed ..

@[simp] theorem name_undescribed (n : Node) : n.undescribed.name = n.name := by
  cases n with
  | text t => rfl
  | element tag attrs children =>
      rw [undescribed]
      split <;> rfl

/-- All attributes stay except for the description. -/
theorem attrs_undescribed {α : Type} (read : Attributes → α)
    (blind : ∀ attrs : Attributes, read { attrs with alt := none } = read attrs) (n : Node) :
    read n.undescribed.attrs = read n.attrs := by
  cases n with
  | text t => rfl
  | element tag attrs children =>
      rw [undescribed]
      split
      · rfl
      · rw [Node.attrs, Attributes.undescribed]
        split
        · exact blind attrs
        · rfl

@[simp] theorem undescribed_undescribed (n : Node) : n.undescribed.undescribed = n.undescribed := by
  induction n using rec_strong with
  | text t => rfl
  | element tag attrs children ih =>
      cases reads : tag.readsSource with
      | true => rw [undescribed_source reads, undescribed_source reads]
      | false =>
          have inside : (children.map undescribed).map undescribed = children.map undescribed := by
            rw [List.map_map]
            exact List.map_congr_left ih
          rw [undescribed_element reads, undescribed_element reads, inside]
          congr 1
          simp only [Attributes.undescribed, ne_eq, List.map_eq_nil_iff]
          split <;> rfl

/-- Two lists of nodes that differ in descriptions only. -/
theorem map_undescribed_map (ns : List Node) :
    (ns.map undescribed).map undescribed = ns.map undescribed := by
  rw [List.map_map]
  exact List.map_congr_left fun n _ => undescribed_undescribed n

/-! ## Composition -/

theorem joinParts_undescribed (style : Style) (children : List Node) (parts : List (List Char)) :
    joinParts style (children.map undescribed) parts = joinParts style children parts := by
  simp only [joinParts, List.any_map, Function.comp_def, tagIs_undescribed]

theorem composeParts_undescribed {style : Style} {inText : Bool} {children : List Node}
    (ih : ∀ c ∈ children, compose style inText c.undescribed = compose style inText c) :
    composeParts style inText (children.map undescribed) = composeParts style inText children := by
  induction children with
  | nil => rfl
  | cons c rest tail =>
      rw [List.map_cons, composeParts, composeParts, tagIs_undescribed, ih c List.mem_cons_self,
        tail fun m member => ih m (List.mem_cons_of_mem c member)]

theorem compose_undescribed (style : Style) (inText : Bool) (n : Node) :
    compose style inText n.undescribed = compose style inText n := by
  induction n using rec_strong generalizing inText with
  | text t => rfl
  | element tag attrs children ih =>
      have parts (inText : Bool) := composeParts_undescribed fun c member => ih c member inText
      have joined := joinParts_undescribed style children
      cases tag with
      | raw | literalBlock | subscript | superscript => rw [undescribed_source rfl]
      | footnoteReference | hardbreak => rfl
      | image =>
          rw [undescribed_element rfl]
          cases children with
          | nil => rfl
          | cons c rest => simp [compose, parts, joined, - List.map_cons]
      | _ =>
          rw [undescribed_element rfl]
          simp only [compose, parts, joined, reduceCtorEq, false_and, if_false]

end Node

/-! ## Tables -/

section Tables

open Node

theorem plainLine_undescribed (inText : Bool) (n : Node) :
    plainLine inText n.undescribed = plainLine inText n := by
  rw [plainLine, compose_undescribed, plainLine]

theorem label_undescribed (inText : Bool) (n : Node) :
    label inText n.undescribed = label inText n := by
  rw [label, compose_undescribed, label]

theorem rowCells_undescribed (cells : List Node) :
    rowCells (cells.map undescribed) = rowCells cells := by
  induction cells with
  | nil => rfl
  | cons cell rest ih => rw [List.map_cons, rowCells, rowCells, plainLine_undescribed, ih]

/-- A row of a table without the descriptions in its cells. -/
def undescribedRow (row : Bool × List Node) : Bool × List Node := (row.1, row.2.map undescribed)

theorem allCells_undescribed (rows : List (Bool × List Node)) :
    allCells (rows.map undescribedRow) = allCells rows := by
  induction rows with
  | nil => rfl
  | cons row rest ih =>
      rw [List.map_cons, allCells, allCells, ih, undescribedRow, rowCells_undescribed]

theorem cellAlign_undescribed (cell : Node) : cellAlign cell.undescribed = cellAlign cell := by
  rw [cellAlign, attrs_undescribed Attributes.align fun _ => rfl, cellAlign]

theorem columnAligns_undescribed (rows : List (Bool × List Node)) :
    columnAligns ((rows.map undescribedRow).map Prod.snd) = columnAligns (rows.map Prod.snd) := by
  induction rows with
  | nil => rfl
  | cons row rest ih =>
      have own : (row.2.map undescribed).map cellAlign = row.2.map cellAlign := by
        rw [List.map_map]
        exact List.map_congr_left fun cell _ => cellAlign_undescribed cell
      simp only [List.map_cons, columnAligns, undescribedRow, own, ih]

theorem rowsIn_map_undescribed {children : List Node} {inHead : Bool}
    (ih : ∀ c ∈ children, (rowsOf inHead c.undescribed).map undescribedRow =
      (rowsOf inHead c).map undescribedRow) :
    (rowsIn inHead (children.map undescribed)).map undescribedRow =
      (rowsIn inHead children).map undescribedRow := by
  induction children with
  | nil => rfl
  | cons c rest tail =>
      rw [List.map_cons, rowsIn, rowsIn, List.map_append, List.map_append, ih c List.mem_cons_self,
        tail fun m member => ih m (List.mem_cons_of_mem c member)]

/-- The rows stay, with the same children but for their descriptions. -/
theorem rowsOf_undescribed (inHead : Bool) (n : Node) :
    (rowsOf inHead n.undescribed).map undescribedRow = (rowsOf inHead n).map undescribedRow := by
  induction n using Node.rec_strong generalizing inHead with
  | text t => rfl
  | element tag attrs children ih =>
      cases reads : tag.readsSource with
      | true => rw [undescribed_source reads]
      | false =>
          rw [undescribed_element reads, rowsOf, rowsOf, List.map_append, List.map_append,
            rowsIn_map_undescribed fun c member => ih c member (tag == .thead)]
          congr 1
          split
          · exact congrArg (fun cells => [(inHead, cells)]) (map_undescribed_map children)
          · rfl

theorem tableOf_undescribed (children : List Node) :
    tableOf (children.map undescribed) = tableOf children := by
  have rows := rowsIn_map_undescribed fun c (_ : c ∈ children) => rowsOf_undescribed false c
  have cells := allCells_undescribed (rowsIn false (children.map undescribed))
  have aligns := columnAligns_undescribed (rowsIn false (children.map undescribed))
  rw [rows] at cells aligns
  rw [tableOf, tableOf, ← cells, ← aligns, allCells_undescribed, columnAligns_undescribed]

theorem tableBody_undescribed (children : List Node) :
    tableBody (children.map undescribed) = tableBody children := by
  rw [tableBody, tableOf_undescribed, tableBody]

end Tables

/-! ## Links -/

section Links

open Node

theorem filterAll_map_undescribed {p : Node → Bool} {children : List Node}
    (ih : ∀ c ∈ children, (c.undescribed.filter p).map undescribed = (c.filter p).map undescribed) :
    (filterAll p (children.map undescribed)).map undescribed =
      (filterAll p children).map undescribed := by
  induction children with
  | nil => rfl
  | cons c rest tail =>
      rw [List.map_cons, filterAll, filterAll, List.map_append, List.map_append,
        ih c List.mem_cons_self, tail fun m member => ih m (List.mem_cons_of_mem c member)]

theorem filter_undescribed {p : Node → Bool} (blind : ∀ n : Node, p n.undescribed = p n) (n : Node) :
    (n.undescribed.filter p).map undescribed = (n.filter p).map undescribed := by
  induction n using Node.rec_strong with
  | text t => rfl
  | element tag attrs children ih =>
      cases reads : tag.readsSource with
      | true => rw [undescribed_source reads]
      | false =>
          have own := blind (element tag attrs children)
          have same := undescribed_undescribed (element tag attrs children)
          rw [undescribed_element reads] at own same ⊢
          rw [Node.filter, Node.filter, List.map_append, List.map_append,
            filterAll_map_undescribed ih, own]
          split
          · rw [List.map_singleton, List.map_singleton, same, undescribed_element reads]
          · rfl

theorem links_undescribed (n : Node) :
    n.undescribed.links.map undescribed = n.links.map undescribed :=
  filter_undescribed (tagIs_undescribed Tag.isLink) n

def Definition.undescribed (entry : Definition) : Definition :=
  { entry with node := entry.node.undescribed }

def Document.undescribed (d : Document) : Document where
  children := d.children.map Node.undescribed
  definitions := d.definitions.map Definition.undescribed

theorem definition?_undescribed (d : Document) (id : List Char) :
    d.undescribed.definition? id = (d.definition? id).map Definition.undescribed := by
  rw [Document.definition?, Document.undescribed, List.find?_map]
  rfl

section Same

variable {n n' : Node} (same : n'.undescribed = n.undescribed)

include same

theorem name_of_same : n'.name = n.name := by
  rw [← name_undescribed, same, name_undescribed]

theorem attrs_of_same {α : Type} (read : Attributes → α)
    (blind : ∀ attrs : Attributes, read { attrs with alt := none } = read attrs) :
    read n'.attrs = read n.attrs := by
  rw [← attrs_undescribed read blind, same, attrs_undescribed read blind]

theorem hasTag_of_same (tag : Tag) : n'.hasTag tag = n.hasTag tag := by
  rw [← hasTag_undescribed, same, hasTag_undescribed]

theorem label_of_same (inText : Bool) : label inText n' = label inText n := by
  rw [← label_undescribed, same, label_undescribed]

end Same

theorem resolve_undescribed {d : Document} {link link' : Node} {entry : Definition}
    (same : link'.undescribed = link.undescribed) (resolved : d.resolve link = .ok entry) :
    d.undescribed.resolve link' = .ok entry.undescribed := by
  obtain ⟨id, refers, held⟩ := Document.resolve_eq_ok.mp resolved
  refine Document.resolve_eq_ok.mpr ⟨id, (attrs_of_same same Attributes.refid fun _ => rfl).trans refers, ?_⟩
  rw [definition?_undescribed, held]
  rfl

theorem resolve_undescribed_error {d : Document} {link link' : Node} {e : Error}
    (same : link'.undescribed = link.undescribed) (failed : d.resolve link = .error e) :
    ∃ e', d.undescribed.resolve link' = .error e' ∧ e.message = e'.message := by
  have refid := attrs_of_same same Attributes.refid fun _ => rfl
  have noteid := attrs_of_same same Attributes.noteid fun _ => rfl
  cases resolved : d.undescribed.resolve link' with
  | error e' =>
      refine ⟨e', rfl, ?_⟩
      rw [Document.resolve_eq_error failed, Document.resolve_eq_error resolved, noteid]
      exact message_malformed _ (name_of_same same).symm
  | ok entry' =>
      obtain ⟨id, refers, held⟩ := Document.resolve_eq_ok.mp resolved
      rw [definition?_undescribed] at held
      obtain ⟨entry, found, _⟩ := Option.map_eq_some_iff.mp held
      cases failed.symm.trans (Document.resolve_eq_ok.mpr ⟨id, refid.symm.trans refers, found⟩)

/-- Links that differ in descriptions only. -/
def SameLinks (links links' : List Node) : Prop :=
  links'.map undescribed = links.map undescribed

theorem SameLinks.cons {link : Node} {rest links' : List Node} (h : SameLinks (link :: rest) links') :
    ∃ link' rest', links' = link' :: rest' ∧ link'.undescribed = link.undescribed ∧
      SameLinks rest rest' :=
  List.map_eq_cons_iff.mp h

theorem SameLinks.prepend {link link' : Node} {r r' : Except Error (List Node)}
    (first : link'.undescribed = link.undescribed) (inside inside' : List Node)
    (inner : SameLinks inside inside') (rest : Alike SameLinks r r') :
    Alike SameLinks (r.map fun more => link :: (inside ++ more))
      (r'.map fun more => link' :: (inside' ++ more)) := by
  refine rest.map fun more more' behind => ?_
  simp only [SameLinks, List.map_cons, List.map_append] at inner behind ⊢
  rw [first, inner, behind]

theorem follow_undescribed {d : Document} {followed : List (List (List Char))}
    {links links' : List Node} (same : SameLinks links links') :
    Alike SameLinks (d.follow followed links) (d.undescribed.follow followed links') := by
  fun_induction Document.follow d followed links generalizing links' with
  | case1 followed =>
      obtain rfl : links' = [] := List.map_eq_nil_iff.mp same
      rw [Document.follow_nil]
      exact .ok rfl
  | case2 followed link rest isNote e failed =>
      obtain ⟨link', rest', rfl, first, behind⟩ := same.cons
      obtain ⟨e', failed', message⟩ := resolve_undescribed_error first failed
      rw [Document.follow_cons_dangling ((hasTag_of_same first _).trans isNote) failed']
      exact .error message
  | case3 followed link rest isNote entry resolved old ih =>
      obtain ⟨link', rest', rfl, first, behind⟩ := same.cons
      rw [Document.follow_cons_followed ((hasTag_of_same first _).trans isNote)
        (resolve_undescribed first resolved) (List.contains_iff_mem.mp old)]
      exact SameLinks.prepend first [] [] rfl (ih behind)
  | case4 followed link rest isNote entry resolved fresh e failed ih =>
      obtain ⟨link', rest', rfl, first, behind⟩ := same.cons
      have inside : Alike SameLinks _ (d.undescribed.follow (entry.undescribed.ids :: followed)
        entry.undescribed.node.links) := ih (links_undescribed entry.node)
      rw [Document.follow_cons_enter ((hasTag_of_same first _).trans isNote)
        (resolve_undescribed first resolved) fun old => fresh (List.contains_iff_mem.mpr old)]
      rw [failed] at inside
      generalize d.undescribed.follow _ entry.undescribed.node.links = r at inside
      cases inside with
      | error message => exact .error message
  | case5 followed link rest isNote entry resolved fresh found listed ihInside ih =>
      obtain ⟨link', rest', rfl, first, behind⟩ := same.cons
      have inside : Alike SameLinks _ (d.undescribed.follow (entry.undescribed.ids :: followed)
        entry.undescribed.node.links) := ihInside (links_undescribed entry.node)
      rw [Document.follow_cons_enter ((hasTag_of_same first _).trans isNote)
        (resolve_undescribed first resolved) fun old => fresh (List.contains_iff_mem.mpr old)]
      rw [listed] at inside
      generalize d.undescribed.follow _ entry.undescribed.node.links = r at inside
      cases inside with
      | ok inner => exact SameLinks.prepend first _ _ inner (ih behind)
  | case6 followed link rest plain ih =>
      obtain ⟨link', rest', rfl, first, behind⟩ := same.cons
      have plain' := (hasTag_of_same first .footnoteReference).trans (by simpa using plain)
      rw [Document.follow_cons_plain plain']
      exact SameLinks.prepend first [] [] rfl (ih behind)

theorem linkLine_undescribed {d : Document} {link link' : Node}
    (same : link'.undescribed = link.undescribed) :
    Alike Eq (linkLine d link) (linkLine d.undescribed link') := by
  have noteid := attrs_of_same same Attributes.noteid fun _ => rfl
  have uri := attrs_of_same same Attributes.uri fun _ => rfl
  have refuri := attrs_of_same same Attributes.refuri fun _ => rfl
  simp only [linkLine, hasTag_of_same same, noteid, uri, refuri, label_of_same same]
  split
  · cases resolved : d.resolve link with
    | error e =>
        obtain ⟨e', failed, message⟩ := resolve_undescribed_error same resolved
        rw [failed]
        exact .error message
    | ok entry =>
        rw [resolve_undescribed same resolved]
        simp only [Definition.undescribed, label_undescribed]
        exact .of_eq rfl
  · cases label false link with
    | error e => exact .error rfl
    | ok t =>
        generalize (if link.hasTag .image = true then link.attrs.uri else link.attrs.refuri) = uri
        cases uri with
        | none => exact .error (message_malformed _ (name_of_same same).symm)
        | some uri => exact .of_eq rfl

theorem linkLines_undescribed {d : Document} {links links' : List Node}
    (same : SameLinks links links') :
    Alike Eq (linkLines d links) (linkLines d.undescribed links') := by
  induction links generalizing links' with
  | nil =>
      obtain rfl : links' = [] := List.map_eq_nil_iff.mp same
      exact .ok rfl
  | cons link rest ih =>
      obtain ⟨link', rest', rfl, first, behind⟩ := same.cons
      have line := linkLine_undescribed (d := d) first
      rw [linkLines, linkLines]
      generalize linkLine d link = r, linkLine d.undescribed link' = r' at line
      cases line with
      | error message => exact .error message
      | ok related =>
          subst related
          exact (ih behind).map fun _ _ related => related ▸ rfl

theorem linkGroup_undescribed {d : Document} {links links' : List Node}
    (same : SameLinks links links') (kind : Tag) :
    (linkGroup d links kind).Alike (linkGroup d.undescribed links' kind) := by
  have kept (ns : List Node) : (ns.filter (·.hasTag kind)).map undescribed =
      (ns.map undescribed).filter (·.hasTag kind) := by
    rw [List.filter_map]
    simp only [Function.comp_def, hasTag_undescribed]
  have members : SameLinks (links.filter (·.hasTag kind)) (links'.filter (·.hasTag kind)) := by
    rw [SameLinks, kept, kept, same]
  exact .ofExcept ((linkLines_undescribed members).map fun _ _ related => related ▸ rfl)

theorem linkBlock_of_same (d : Document) {n n' : Node} (same : n'.undescribed = n.undescribed) :
    (linkBlock d n).Alike (linkBlock d.undescribed n') := by
  have links : SameLinks n.links n'.links := by
    rw [SameLinks, ← links_undescribed, same, links_undescribed]
  have followed : Alike SameLinks (d.links n) (d.undescribed.links n') := follow_undescribed links
  unfold linkBlock
  generalize d.links n = r, d.undescribed.links n' = r' at followed
  cases followed with
  | error message => exact .fail message
  | ok related =>
      have group := linkGroup_undescribed (d := d) related
      exact ((group .footnoteReference).andThen (group .image)).andThen (group .reference)

/-- The link block of a node does not depend on descriptions in the node. -/
theorem linkBlock_undescribed (d : Document) (n : Node) :
    (linkBlock d n).Alike (linkBlock d n.undescribed) :=
  (linkBlock_of_same d rfl).trans (linkBlock_of_same d (undescribed_undescribed n).symm).symm

end Links

/-! ## Blocks -/

section Blocks

open Node

theorem quoteChunks_undescribed (children : List Node) :
    quoteChunks (children.map undescribed) = quoteChunks children := by
  induction children with
  | nil => rfl
  | cons c rest ih =>
      rw [List.map_cons, quoteChunks, quoteChunks, ih, quoteChunk, compose_undescribed, quoteChunk]

theorem isLinksOnlyParagraph_undescribed (children : List Node) :
    isLinksOnlyParagraph (children.map undescribed) = isLinksOnlyParagraph children := by
  rw [isLinksOnlyParagraph, List.all_map, isLinksOnlyParagraph]
  congr 1
  funext c
  cases c with
  | text t => rfl
  | element tag attrs inside =>
      cases reads : tag.readsSource with
      | true => rw [Function.comp_apply, undescribed_source reads]
      | false => rw [Function.comp_apply, undescribed_element reads]

theorem isLinksOnlyList_undescribed (items : List Node) :
    isLinksOnlyList (items.map undescribed) = isLinksOnlyList items := by
  have paragraphs (children : List Node) :
      (children.map undescribed).all (fun c => c.hasTag .paragraph && isLinksOnlyParagraph c.children) =
        children.all fun c => c.hasTag .paragraph && isLinksOnlyParagraph c.children := by
    rw [List.all_map]
    congr 1
    funext c
    cases isParagraph : c.hasTag .paragraph with
    | false => simp [isParagraph]
    | true =>
        obtain ⟨attrs, inside, rfl⟩ := eq_element_of_hasTag isParagraph
        rw [Function.comp_apply, undescribed_element rfl]
        exact congrArg _ (isLinksOnlyParagraph_undescribed inside)
  rw [isLinksOnlyList, List.all_map, isLinksOnlyList]
  congr 1
  funext item
  cases isItem : item.hasTag .listItem with
  | false => simp [isItem]
  | true =>
      obtain ⟨attrs, inside, rfl⟩ := eq_element_of_hasTag isItem
      rw [Function.comp_apply, undescribed_element rfl]
      exact congrArg _ (paragraphs inside)

theorem headingText_undescribed (clamp : Option Int) (n : Node) :
    (headingText clamp n).Alike (headingText clamp n.undescribed) := by
  have level := attrs_undescribed Attributes.level (fun _ => rfl) n
  simp only [headingText, level, plainLine_undescribed]
  split
  · exact .fail (message_malformed _ (name_undescribed n).symm)
  · exact .refl _

theorem itemHead_undescribed (ordered : Bool) (level number : Nat) (attrs : Attributes)
    (children : List Node) :
    itemHead ordered level number attrs (children.map undescribed) =
      itemHead ordered level number attrs children := by
  have text := compose_undescribed {} false (.element .listItem attrs children)
  have head : (children.map undescribed).head?.any (·.tagIs Tag.isList) =
      children.head?.any (·.tagIs Tag.isList) := by
    cases children with
    | nil => rfl
    | cons c rest => exact tagIs_undescribed Tag.isList c
  rw [undescribed_element rfl, Attributes.undescribed, if_neg (by simp)] at text
  simp only [itemHead, itemLine, text, head]

theorem listItems_undescribed {ordered : Bool} {level : Nat} {items : List Node}
    (each : ∀ item ∈ items, ∀ number, (listItem ordered level number item).Alike
      (listItem ordered level number item.undescribed)) (number : Nat) :
    (listItems ordered level number items).Alike
      (listItems ordered level number (items.map undescribed)) := by
  induction items generalizing number with
  | nil => exact .refl _
  | cons item rest ih =>
      obtain ⟨first, behind⟩ := List.forall_mem_cons.mp each
      exact (first number).andThen (ih behind (number + 1))

theorem innerLists_undescribed {level : Nat} {children : List Node}
    (each : ∀ c ∈ children, (innerList level c).Alike (innerList level c.undescribed)) :
    (innerLists level children).Alike (innerLists level (children.map undescribed)) := by
  induction children with
  | nil => exact .refl _
  | cons c rest ih =>
      obtain ⟨first, behind⟩ := List.forall_mem_cons.mp each
      exact first.andThen (ih behind)

/-- The lines of an item, and of a list in an item, do not depend on descriptions. -/
theorem listItem_undescribed (n : Node) :
    (∀ ordered level number, (listItem ordered level number n).Alike
      (listItem ordered level number n.undescribed)) ∧
      ∀ level, (innerList level n).Alike (innerList level n.undescribed) := by
  induction n using Node.rec_strong with
  | text t => exact ⟨fun _ _ _ => .refl _, fun _ => .refl _⟩
  | element tag attrs children ih =>
      cases reads : tag.readsSource with
      | true =>
          rw [undescribed_source reads]
          exact ⟨fun _ _ _ => .refl _, fun _ => .refl _⟩
      | false =>
          constructor
          · intro ordered level number
            by_cases isItem : tag = .listItem
            · subst isItem
              rw [undescribed_element rfl]
              simp only [listItem, List.isEmpty_map, ne_eq, not_true_eq_false, if_false]
              split
              · exact .refl _
              · rw [Attributes.undescribed, if_neg (by simp), itemHead_undescribed]
                exact (Written.Alike.refl _).andThen
                  (innerLists_undescribed fun c member => (ih c member).2 (level + 1))
            · have name := name_undescribed (.element tag attrs children)
              rw [undescribed_element reads] at name ⊢
              simp only [listItem, ne_eq, isItem, not_false_eq_true, if_true]
              exact .fail (message_malformed _ name.symm)
          · intro level
            rw [undescribed_element reads]
            simp only [innerList]
            split
            · exact listItems_undescribed (fun item member => (ih item member).1 _ level) 1
            · exact .refl _

end Blocks

/-! ## Documents -/

/-- A walk over a document without descriptions. -/
def Walk.undescribed (w : Walk) : Walk := { w with document := w.document.undescribed }

theorem writeAll_alike {w w' : Walk} {f : Node → Node} {children : List Node}
    (each : ∀ c ∈ children, (w.write c).Alike (w'.write (f c))) :
    (w.writeAll children).Alike (w'.writeAll (children.map f)) := by
  induction children with
  | nil => exact .refl _
  | cons c rest ih =>
      obtain ⟨first, behind⟩ := List.forall_mem_cons.mp each
      exact first.andThen (ih behind)

/-- What is written of a node does not depend on descriptions in the footnotes. -/
theorem write_register (w : Walk) (n : Node) : (w.write n).Alike (w.undescribed.write n) := by
  induction n using Node.rec_strong with
  | text t => exact .refl _
  | element tag attrs children ih =>
      have inside : (w.writeAll children).Alike (w.undescribed.writeAll children) :=
        by simpa using writeAll_alike (f := id) ih
      have links := linkBlock_of_same w.document (n := .element tag attrs children) rfl
      cases tag with
      | document =>
          rw [Walk.write, Walk.write]
          exact (Written.Alike.refl _).andThen inside
      | blockQuote | bulletList | enumeratedList | definitionList | paragraph | table =>
          exact (Written.Alike.refl _).andThen links
      | footnote | heading | listItem | literalBlock | raw | transition => exact .refl _
      | _ => exact inside

/-- What is written of a node does not depend on descriptions in the node. -/
theorem write_undescribed (w : Walk) (n : Node) : (w.write n).Alike (w.write n.undescribed) := by
  induction n using Node.rec_strong with
  | text t => exact .refl _
  | element tag attrs children ih =>
      have inside := writeAll_alike ih
      have links := linkBlock_undescribed w.document (.element tag attrs children)
      have text := Node.compose_undescribed {} false (.element tag attrs children)
      have heading := headingText_undescribed w.clamp (.element tag attrs children)
      have name := Node.name_undescribed (.element tag attrs children)
      cases reads : tag.readsSource with
      | true =>
          rw [Node.undescribed_source reads]
          exact .refl _
      | false =>
          rw [Node.undescribed_element reads] at links text heading name ⊢
          cases tag with
          | raw | literalBlock | subscript | superscript => cases reads
          | document =>
              rw [Walk.write, Walk.write]
              exact (Written.Alike.refl _).andThen inside
          | blockQuote =>
              rw [Walk.write, Walk.write, quoteChunks_undescribed]
              exact (Written.Alike.refl _).andThen links
          | bulletList | enumeratedList | definitionList =>
              rw [Walk.write, Walk.write, isLinksOnlyList_undescribed]
              refine Written.Alike.andThen ?_ links
              split
              · exact .refl _
              · exact (listItems_undescribed (fun item _ => (listItem_undescribed item).1 _ 0) 1).andThen
                  (.refl _)
          | paragraph =>
              rw [Walk.write, Walk.write, isLinksOnlyParagraph_undescribed, text]
              exact (Written.Alike.refl _).andThen links
          | table =>
              rw [Walk.write, Walk.write, tableBody_undescribed]
              exact (Written.Alike.refl _).andThen links
          | heading => exact heading
          | listItem => exact .fail (message_malformed _ name.symm)
          | footnote | transition => exact .refl _
          | _ => exact inside

theorem lastBeyondIn_undescribed {limit depth : Int} {children : List Node}
    (each : ∀ c ∈ children, (c.undescribed.lastBeyond limit depth).map Node.name =
      (c.lastBeyond limit depth).map Node.name) :
    (Node.lastBeyondIn limit depth (children.map Node.undescribed)).map Node.name =
      (Node.lastBeyondIn limit depth children).map Node.name := by
  induction children with
  | nil => rfl
  | cons c rest ih =>
      obtain ⟨first, behind⟩ := List.forall_mem_cons.mp each
      have same := ih behind
      rw [List.map_cons, Node.lastBeyondIn, Node.lastBeyondIn]
      generalize Node.lastBeyondIn limit depth (rest.map Node.undescribed) = found,
        Node.lastBeyondIn limit depth rest = found' at same
      cases found <;> cases found'
      · exact first
      · cases same
      · cases same
      · exact same

theorem lastBeyond_undescribed (limit depth : Int) (n : Node) :
    (n.undescribed.lastBeyond limit depth).map Node.name =
      (n.lastBeyond limit depth).map Node.name := by
  induction n using Node.rec_strong generalizing depth with
  | text t => rfl
  | element tag attrs children ih =>
      cases reads : tag.readsSource with
      | true => rw [Node.undescribed_source reads]
      | false =>
          rw [Node.undescribed_element reads, Node.lastBeyond, Node.lastBeyond]
          split
          · rfl
          · exact lastBeyondIn_undescribed fun c member => ih c member (depth + 1)

theorem checkDepth_undescribed (d : Document) (limit : Int) :
    Alike Eq (d.checkDepth limit) (d.undescribed.checkDepth limit) := by
  have found := lastBeyond_undescribed limit 0 d.root
  have root : d.undescribed.root = d.root.undescribed := (Node.undescribed_element rfl _ _).symm
  rw [Document.checkDepth, Document.checkDepth, root]
  generalize d.root.undescribed.lastBeyond limit 0 = deep,
    d.root.lastBeyond limit 0 = deep' at found
  cases deep <;> cases deep'
  · exact .ok rfl
  · cases found
  · cases found
  · exact .error (message_malformed _ (Option.some.inj found).symm)

/-- Documents render alike if their depths are checked alike and they are written alike. -/
theorem render_alike {d d' : Document} {settings : Settings} {metadata : Option Metadata}
    (depth : Alike Eq (d.checkDepth settings.maxNestingDepth)
      (d'.checkDepth settings.maxNestingDepth))
    (written : (Walk.write ⟨d, metadata, settings.maxHeadingLevel⟩ d.root).Alike
      (Walk.write ⟨d', metadata, settings.maxHeadingLevel⟩ d'.root)) :
    Alike Eq (render d settings metadata) (render d' settings metadata) := by
  simp only [render, Page.walk, Page.begin, Page.text, List.nil_append]
  generalize d.checkDepth _ = r, d'.checkDepth _ = r' at depth
  cases depth with
  | error message => exact .error message
  | ok _ =>
      obtain ⟨text, error⟩ := written
      simp only [text]
      generalize (Walk.write _ d.root).error = stop, (Walk.write _ d'.root).error = stop' at error
      cases stop <;> cases stop'
      · exact .ok rfl
      · cases error
      · cases error
      · exact .error (Option.some.inj error)

/-- Descriptions that are not read have no influence on a rendering. -/
theorem render_undescribed (d : Document) (settings : Settings) (metadata : Option Metadata) :
    Alike Eq (render d settings metadata) (render d.undescribed settings metadata) := by
  have root : d.undescribed.root = d.root.undescribed := (Node.undescribed_element rfl _ _).symm
  refine render_alike (checkDepth_undescribed d settings.maxNestingDepth) ?_
  rw [root]
  exact (write_register _ d.root).trans (write_undescribed _ d.root)

/-! ## Building -/

/-- A footnote definition, with its path, without descriptions. -/
def undescribedAt (found : Path × Node) : Path × Node := (found.1, found.2.undescribed)

theorem definitionsFrom_map_undescribed (outerFirst : Bool) {children : List Node}
    (each : ∀ c ∈ children, (c.undescribed.definitions outerFirst).map undescribedAt =
      (c.definitions outerFirst).map undescribedAt) (index : Nat) :
    (Node.definitionsFrom outerFirst index (children.map Node.undescribed)).map undescribedAt =
      (Node.definitionsFrom outerFirst index children).map undescribedAt := by
  induction children generalizing index with
  | nil => rfl
  | cons c rest ih =>
      obtain ⟨first, behind⟩ := List.forall_mem_cons.mp each
      have own := congrArg (List.map fun found : Path × Node => (index :: found.1, found.2)) first
      rw [List.map_map, List.map_map] at own
      simp only [List.map_cons, Node.definitionsFrom, List.map_append, ih behind, List.map_map]
      exact congrArg (· ++ _) own

theorem definitionHere_undescribed (n : Node) :
    n.undescribed.definitionHere.map undescribedAt = n.definitionHere.map undescribedAt := by
  have ids := Node.attrs_undescribed Attributes.ids (fun _ => rfl) n
  rw [Node.definitionHere, Node.hasTag_undescribed, ids, Node.definitionHere]
  split
  · exact congrArg (fun m => [([], m)]) (Node.undescribed_undescribed n)
  · rfl

theorem definitions_undescribed (outerFirst : Bool) (n : Node) :
    (n.undescribed.definitions outerFirst).map undescribedAt =
      (n.definitions outerFirst).map undescribedAt := by
  induction n using Node.rec_strong with
  | text t => rfl
  | element tag attrs children ih =>
      cases reads : tag.readsSource with
      | true => rw [Node.undescribed_source reads]
      | false =>
          have here := definitionHere_undescribed (.element tag attrs children)
          have inside := definitionsFrom_map_undescribed outerFirst ih 0
          rw [Node.undescribed_element reads] at here ⊢
          cases outerFirst <;>
            simp only [Node.definitions, Bool.false_eq_true, if_false, if_true, List.map_append,
              here, inside]

theorem ids_undescribed (d : Document) : d.undescribed.ids = d.ids := by
  rw [Document.ids, Document.undescribed, List.flatMap_map]
  rfl

theorem register_undescribed (d : Document) (found : Path × Node) :
    (d.register found).undescribed = d.undescribed.register (undescribedAt found) := by
  have ids := Node.attrs_undescribed Attributes.ids (fun _ => rfl) found.2
  rw [Document.register, Document.register, ids_undescribed, undescribedAt, ids]
  split
  · rfl
  · simp only [Document.undescribed, List.map_append]
    rfl

theorem registerAll_undescribed (d : Document) (found : List (Path × Node)) :
    (d.registerAll found).undescribed = d.undescribed.registerAll (found.map undescribedAt) := by
  induction found generalizing d with
  | nil => rfl
  | cons first rest ih => exact (ih (d.register first)).trans (by rw [register_undescribed]; rfl)

/-- Nodes that differ in descriptions only are built onto a document alike. -/
theorem appendBuilt_undescribed (d : Document) {ns ns' : List Node}
    (same : ns.map Node.undescribed = ns'.map Node.undescribed) :
    (d.appendBuilt ns).undescribed = (d.appendBuilt ns').undescribed := by
  have found := definitionsFrom_map_undescribed false
    (fun c (_ : c ∈ ns) => definitions_undescribed false c) d.children.length
  have found' := definitionsFrom_map_undescribed false
    (fun c (_ : c ∈ ns') => definitions_undescribed false c) d.children.length
  rw [Document.appendBuilt, Document.appendBuilt, registerAll_undescribed, registerAll_undescribed,
    ← found, ← found', same]
  simp only [Document.undescribed, List.map_append, same]

end Gemtext
