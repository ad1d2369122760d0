import Mathlib.Data.List.InsertIdx
import Mathlib.Data.List.Pairwise
import Mathlib.Data.List.Permutation
import Gemtext.Proofs.Locality
import Gemtext.Proofs.Sound

/-! # Rearranging footnotes

Where footnotes stand among the children of a document has no influence on what is rendered. A
walk leaves them out, and links reach them through the register only, which keeps them when they
are moved or taken away. A document that is put together from rearranged children registers the
same footnotes, as long as no two of them claim one id.
-/

namespace Gemtext

namespace Document

/-! ## Documents with one register -/

/-- The definition that holds an id, without the place where it stands. -/
def held? (d : Document) (id : List Char) : Option (List (List Char) × Node) :=
  (d.definition? id).map fun entry => (entry.ids, entry.node)

def SameRegister (d d' : Document) : Prop := ∀ id, d.held? id = d'.held? id

variable {d d' e : Document}

theorem SameRegister.trans (h : d.SameRegister d') (h' : d'.SameRegister e) : d.SameRegister e :=
  fun id => (h id).trans (h' id)

theorem SameRegister.symm (h : d.SameRegister d') : d'.SameRegister d := fun id => (h id).symm

theorem SameRegister.resolve_ok (h : d.SameRegister d') {r : Node} {a : Definition}
    (resolved : d.resolve r = .ok a) :
    ∃ b, d'.resolve r = .ok b ∧ b.ids = a.ids ∧ b.node = a.node := by
  obtain ⟨id, refers, held⟩ := resolve_eq_ok.mp resolved
  have same := h id
  simp only [held?, held, Option.map_some] at same
  obtain ⟨b, held', pair⟩ := Option.map_eq_some_iff.mp same.symm
  obtain ⟨ids, node⟩ := Prod.mk.inj pair
  exact ⟨b, resolve_eq_ok.mpr ⟨id, refers, held'⟩, ids, node⟩

theorem SameRegister.resolve_error (h : d.SameRegister d') {r : Node} {err : Error}
    (failed : d.resolve r = .error err) : d'.resolve r = .error err := by
  cases resolved : d'.resolve r with
  | ok b =>
      obtain ⟨a, again, _⟩ := h.symm.resolve_ok resolved
      cases failed.symm.trans again
  | error err' => rw [resolve_eq_error failed, resolve_eq_error resolved]

theorem SameRegister.resolve_eq (h : d.SameRegister d') {r s : Node}
    (same : d.resolve r = d.resolve s) : d'.resolve r = d'.resolve s := by
  cases resolved : d.resolve r with
  | error err => rw [h.resolve_error resolved, h.resolve_error (same ▸ resolved)]
  | ok a =>
      obtain ⟨b, toB, idsB, _⟩ := h.resolve_ok resolved
      obtain ⟨c, toC, idsC, _⟩ := h.resolve_ok (same ▸ resolved)
      rw [toB, toC, resolve_unique toB toC (idsB.trans idsC.symm)]

theorem AgreeFrom.of_sameRegister (h : d.SameRegister d') (n : Node) : d.AgreeFrom d' n where
  node r _ := by
    cases resolved : d.resolve r with
    | error err => rw [h.resolve_error resolved]
    | ok a =>
        obtain ⟨b, toB, _, node⟩ := h.resolve_ok resolved
        simp [toB, node, Except.map]
  identity r s _ _ := ⟨h.resolve_eq, h.symm.resolve_eq⟩

theorem SameRegister.mem_ids (h : d.SameRegister d') {id : List Char} (known : id ∈ d.ids) :
    id ∈ d'.ids := by
  obtain ⟨entry, held⟩ := Document.mem_ids.mp known
  have same := h id
  simp only [held?, held, Option.map_some] at same
  obtain ⟨entry', held', _⟩ := Option.map_eq_some_iff.mp same.symm
  exact Document.mem_ids.mpr ⟨entry', held'⟩

/-! ## Blocks besides the footnotes -/

def body (d : Document) : List Node := d.children.filter fun c => !c.hasTag .footnote

theorem lastBeyondIn_eq_none {limit depth : Int} {ns : List Node} :
    Node.lastBeyondIn limit depth ns = none ↔ ∀ n ∈ ns, n.lastBeyond limit depth = none := by
  induction ns with
  | nil => simp [Node.lastBeyondIn]
  | cons n rest ih =>
      rw [Node.lastBeyondIn, List.forall_mem_cons, ← ih]
      cases Node.lastBeyondIn limit depth rest <;> simp

theorem checkDepth_eq_ok {limit : Int} :
    d.checkDepth limit = .ok () ↔ 0 ≤ limit ∧ ∀ c ∈ d.children, c.lastBeyond limit 1 = none := by
  rw [← lastBeyondIn_eq_none]
  unfold checkDepth root
  by_cases shallow : limit < 0
  · simp only [Node.lastBeyond, shallow, if_true, reduceCtorEq, false_iff, not_and]
    omega
  · have positive : 0 ≤ limit := by omega
    cases beyond : Node.lastBeyondIn limit 1 d.children <;>
      simp [Node.lastBeyond, shallow, beyond, positive]

/-- A document of children of another one is not deeper. -/
theorem checkDepth_of_subset {limit : Int} (h : d.checkDepth limit = .ok ())
    (subset : d'.children ⊆ d.children) : d'.checkDepth limit = .ok () := by
  obtain ⟨positive, each⟩ := checkDepth_eq_ok.mp h
  exact checkDepth_eq_ok.mpr ⟨positive, fun c member => each c (subset member)⟩

end Document

theorem Walk.write_footnote (w : Walk) {n : Node} (isNote : n.hasTag .footnote = true) :
    w.write n = .nothing := by
  obtain ⟨attrs, children, rfl⟩ := Node.eq_element_of_hasTag isNote
  rfl

theorem Walk.writeAll_skips_footnotes (w : Walk) (ns : List Node) :
    w.writeAll (ns.filter fun c => !c.hasTag .footnote) = w.writeAll ns := by
  induction ns with
  | nil => rfl
  | cons n rest ih =>
      cases isNote : n.hasTag .footnote with
      | true => simp [isNote, writeAll, ih, write_footnote w isNote, Written.nothing_andThen]
      | false => simp [isNote, writeAll, ih]

/-- Documents that are not too deep render alike if they register the same footnotes and have the
    same other blocks. -/
theorem render_congr {d d' : Document} (register : d.SameRegister d') (body : d.body = d'.body)
    {settings : Settings} (depth : d.checkDepth settings.maxNestingDepth = .ok ())
    (depth' : d'.checkDepth settings.maxNestingDepth = .ok ()) (metadata : Option Metadata) :
    render d settings metadata = render d' settings metadata := by
  have root (w : Walk) (d : Document) : w.write d.root =
      Written.andThen ⟨(w.metadata.map Metadata.header).getD [], none⟩ (w.writeAll d.body) := by
    rw [Document.body, Walk.writeAll_skips_footnotes]
    rfl
  have blocks : Walk.writeAll ⟨d, metadata, settings.maxHeadingLevel⟩ d'.body =
      Walk.writeAll ⟨d', metadata, settings.maxHeadingLevel⟩ d'.body :=
    writeAll_congr fun c _ => write_congr rfl (.of_sameRegister register c) (.inl rfl)
  simp only [render, depth, depth', Page.walk, Page.begin, root, body, blocks]

namespace Document

variable {d d' e : Document}

/-! ## Taking away and putting back -/

/-- The same document with other children, among which definitions have other places. -/
def moved (d : Document) (children : List Node) (shift : Path → Option Path) : Document :=
  ⟨children, d.definitions.map fun entry => { entry with place := entry.place.bind shift }⟩

theorem moved_sameRegister (d : Document) (children : List Node) (shift : Path → Option Path) :
    d.SameRegister (d.moved children shift) := by
  intro id
  simp only [held?, definition?, moved, List.find?_map, Option.map_map]
  rfl

/-- Where the definitions still stand, at their new places, nothing else about them changes. -/
theorem refresh_moved (registered : d.Registered) (children : List Node)
    (shift : Path → Option Path)
    (stays : ∀ i rest n place, d.at? (i :: rest) = some n → shift (i :: rest) = some place →
      (d.moved children shift).at? place = some n) :
    (d.moved children shift).refresh = d.moved children shift ∧
      (d.moved children shift).Registered := by
  have located : ∀ entry ∈ d.definitions, ∀ place, entry.place.bind shift = some place →
      (d.moved children shift).at? place = some entry.node ∧
        entry.node.hasTag .footnote = true := by
    intro entry member place stands
    obtain ⟨old, stood, shifted⟩ := Option.bind_eq_some_iff.mp stands
    obtain ⟨found, isFootnote⟩ := registered entry member old stood
    obtain ⟨i, rest, rfl⟩ := at?_footnote found isFootnote
    exact ⟨stays i rest entry.node place found shifted, isFootnote⟩
  constructor
  · unfold refresh
    congr 1
    refine (List.map_congr_left fun entry member => ?_).trans (List.map_id _)
    obtain ⟨old, stood, rfl⟩ := List.mem_map.mp member
    split
    · next place stands => simp [(located old stood place stands).1]
    · rfl
  · intro entry member place stands
    obtain ⟨old, stood, rfl⟩ := List.mem_map.mp member
    exact located old stood place stands

theorem remove_eq_moved (registered : d.Registered) (i : Nat) :
    d.remove [] i = d.moved (d.children.eraseIdx i) (Path.afterRemove [i]) ∧
      (d.remove [] i).Registered := by
  have stays : ∀ k rest n place, d.at? (k :: rest) = some n →
      Path.afterRemove [i] (k :: rest) = some place →
      (d.moved (d.children.eraseIdx i) (Path.afterRemove [i])).at? place = some n := by
    intro k rest n place found shifted
    rw [at?_cons] at found
    simp only [Path.afterRemove] at shifted
    split at shifted
    · cases shifted
    · split at shifted
      · obtain rfl := Option.some.inj shifted
        rw [at?_cons, moved, List.getElem?_eraseIdx, if_neg (by omega),
          show k - 1 + 1 = k by omega]
        exact found
      · obtain rfl := Option.some.inj shifted
        rw [at?_cons, moved, List.getElem?_eraseIdx, if_pos (by omega)]
        exact found
  obtain ⟨same, kept⟩ := refresh_moved registered _ _ stays
  have taken : d.remove [] i = d.moved (d.children.eraseIdx i) (Path.afterRemove [i]) := same
  exact ⟨taken, taken ▸ kept⟩

/-- Footnotes of which every id is known already leave the register as it is. -/
theorem registerAll_eq_self {found : List (Path × Node)}
    (known : ∀ added ∈ found, ∀ id ∈ added.2.attrs.ids, id ∈ d.ids) : d.registerAll found = d := by
  induction found with
  | nil => rfl
  | cons first rest ih =>
      obtain ⟨here, behind⟩ := List.forall_mem_cons.mp known
      have free : first.2.attrs.ids.filter (!d.ids.contains ·) = [] := by
        simpa [List.filter_eq_nil_iff] using here
      have same : d.register first = d := by rw [register, free]; rfl
      change (d.register first).registerAll rest = d
      rw [same, ih behind]

theorem insert_eq_moved (registered : d.Registered) {n : Node}
    (known : ∀ found ∈ n.definitions true, ∀ id ∈ found.2.attrs.ids, id ∈ d.ids) (i : Nat) :
    ∃ j ≤ d.children.length, d.insert [] i n =
        d.moved (d.children.insertIdx j n) (some ∘ Path.afterInsert [j]) ∧
      (d.insert [] i n).Registered := by
  refine ⟨min i d.children.length, Nat.min_le_right .., ?_⟩
  generalize bound : min i d.children.length = j
  have stays : ∀ k rest m place, d.at? (k :: rest) = some m →
      some (Path.afterInsert [j] (k :: rest)) = some place →
      (d.moved (d.children.insertIdx j n) (some ∘ Path.afterInsert [j])).at? place = some m := by
    intro k rest m place found shifted
    obtain rfl := Option.some.inj shifted
    rw [at?_cons] at found
    simp only [Path.afterInsert]
    split
    · rw [at?_cons, moved, List.getElem?_insertIdx, if_neg (by omega), if_neg (by omega),
        Nat.add_sub_cancel]
      exact found
    · rw [at?_cons, moved, List.getElem?_insertIdx, if_pos (by omega)]
      exact found
  obtain ⟨same, kept⟩ :=
    refresh_moved registered _ (some ∘ Path.afterInsert [j]) stays
  have shifted : (fun entry : Definition =>
      { entry with place := entry.place.map (Path.afterInsert ([] ++ [j])) }) =
      fun entry => { entry with place := entry.place.bind (some ∘ Path.afterInsert [j]) } := by
    simp [Option.map_eq_bind]
  have inserted : d.insert [] i n =
      (d.moved (d.children.insertIdx j n) (some ∘ Path.afterInsert [j])).refresh.registerAll
        ((n.definitions true).map fun found => ([j] ++ found.1, found.2)) := by
    rw [moved, ← shifted, ← bound]
    rfl
  have nothingNew : d.insert [] i n =
      d.moved (d.children.insertIdx j n) (some ∘ Path.afterInsert [j]) := by
    rw [inserted, same]
    refine registerAll_eq_self fun added member id claimed => ?_
    obtain ⟨found, inside, rfl⟩ := List.mem_map.mp member
    exact (moved_sameRegister d _ _).mem_ids (known found inside id claimed)
  exact ⟨nothingNew, nothingNew ▸ kept⟩

/-- The documents that come from one document when footnotes among its children are taken away,
    and put back anywhere among the children. -/
inductive Rearranged (d : Document) : Document → Prop where
  | same : d.Rearranged d
  | take {e : Document} {i : Nat} {n : Node} : d.Rearranged e → e.children[i]? = some n →
      n.hasTag .footnote = true → d.Rearranged (e.remove [] i)
  | put {e : Document} {n : Node} : d.Rearranged e → n ∈ d.children →
      n.hasTag .footnote = true → ∀ i, d.Rearranged (e.insert [] i n)

/-- Every id that a footnote in the tree claims is known, to this or to an earlier footnote. -/
def Claimed (d : Document) : Prop :=
  ∀ c ∈ d.children, ∀ found ∈ c.definitions true, ∀ id ∈ found.2.attrs.ids, id ∈ d.ids

/-- What rearranging footnotes leaves as it is. -/
structure Keeps (d e : Document) : Prop where
  register : d.SameRegister e
  body : d.body = e.body
  subset : e.children ⊆ d.children
  registered : e.Registered

theorem filter_eraseIdx {p : Node → Bool} {ns : List Node} {i : Nat} {n : Node}
    (located : ns[i]? = some n) (out : p n = false) : (ns.eraseIdx i).filter p = ns.filter p := by
  induction ns generalizing i with
  | nil => simp at located
  | cons m rest ih =>
      cases i with
      | zero =>
          obtain rfl : m = n := by simpa using located
          simp [out]
      | succ i =>
          have below := ih (by simpa using located)
          simp [List.filter_cons, below]

theorem filter_insertIdx {p : Node → Bool} {n : Node} (out : p n = false) (ns : List Node)
    (i : Nat) : (ns.insertIdx i n).filter p = ns.filter p := by
  induction ns generalizing i with
  | nil => cases i <;> simp [out]
  | cons m rest ih =>
      cases i with
      | zero => simp [out]
      | succ i => simp [List.filter_cons, ih i]

theorem Rearranged.keeps (registered : d.Registered) (claimed : d.Claimed)
    (h : d.Rearranged e) : d.Keeps e := by
  induction h with
  | same => exact ⟨fun _ => rfl, rfl, fun _ member => member, registered⟩
  | @take e i n _ located isNote ih =>
      obtain ⟨taken, kept⟩ := remove_eq_moved ih.registered i
      refine ⟨ih.register.trans (taken ▸ moved_sameRegister e _ _), ?_, fun c member => ?_, kept⟩
      · rw [ih.body, taken]
        exact (filter_eraseIdx located (by simp [isNote])).symm
      · rw [taken] at member
        exact ih.subset (List.mem_of_mem_eraseIdx member)
  | @put e n _ member isNote i ih =>
      have known : ∀ found ∈ n.definitions true, ∀ id ∈ found.2.attrs.ids, id ∈ e.ids :=
        fun found inside id claims => ih.register.mem_ids (claimed n member found inside id claims)
      obtain ⟨j, _, inserted, kept⟩ := insert_eq_moved ih.registered known i
      refine ⟨ih.register.trans (inserted ▸ moved_sameRegister e _ _), ?_, fun c among => ?_, kept⟩
      · rw [ih.body, inserted]
        exact (filter_insertIdx (by simp [isNote]) _ _).symm
      · rw [inserted] at among
        rcases List.eq_or_mem_of_mem_insertIdx among with rfl | old
        · exact member
        · exact ih.subset old

/-- Rearranged documents render alike. -/
theorem Rearranged.render_eq (registered : d.Registered) (claimed : d.Claimed)
    (h : d.Rearranged e) (h' : d.Rearranged d') {settings : Settings}
    (depth : d.checkDepth settings.maxNestingDepth = .ok ()) (metadata : Option Metadata) :
    render e settings metadata = render d' settings metadata := by
  have first := h.keeps registered claimed
  have second := h'.keeps registered claimed
  exact render_congr (first.register.symm.trans second.register) (first.body.symm.trans second.body)
    (checkDepth_of_subset depth first.subset) (checkDepth_of_subset depth second.subset) metadata

/-! ## Putting a document together -/

/-- Footnotes stand among these nodes and not inside them, and no two of them claim one id. -/
structure NotesAtTop (ns : List Node) : Prop where
  top : ∀ n ∈ ns, ∀ c ∈ n.children, c.HoldsNoFootnote
  distinct : ns.Pairwise fun m n => m.hasTag .footnote = true → n.hasTag .footnote = true →
    ∀ id ∈ m.attrs.ids, id ∉ n.attrs.ids

/-- The documents that are put together from these children, one after another or all at once. -/
inductive PutTogether (ns : List Node) : Document → Prop where
  | oneByOne : PutTogether ns (ofChildren ns)
  | atOnce : PutTogether ns (appendBuilt {} ns)

theorem definitionsFrom_top {ns : List Node} (top : ∀ n ∈ ns, ∀ c ∈ n.children, c.HoldsNoFootnote)
    (outerFirst : Bool) (index : Nat) :
    (Node.definitionsFrom outerFirst index ns).map Prod.snd = ns.filter Node.isDefinition := by
  induction ns generalizing index with
  | nil => rfl
  | cons n rest ih =>
      obtain ⟨first, behind⟩ := List.forall_mem_cons.mp top
      have own : (n.definitions outerFirst).map Prod.snd =
          if n.isDefinition then [n] else [] := by
        cases n with
        | text t => rfl
        | element tag attrs children =>
            have inside : Node.definitionsFrom outerFirst 0 children = [] := by
              rw [List.eq_nil_iff_forall_not_mem]
              rintro ⟨path, m⟩ member
              obtain ⟨i, c, rest, _, located, below, isDefinition⟩ :=
                Node.mem_definitionsFrom_iff.mp member
              have none := first c (List.mem_of_getElem? located) rest m below
              simp [Node.isDefinition, none] at isDefinition
            have here : Node.definitionHere (.element tag attrs children) =
                if (Node.element tag attrs children).isDefinition then
                  [([], Node.element tag attrs children)] else [] := rfl
            cases isDefinition : (Node.element tag attrs children).isDefinition <;>
              simp [Node.definitions, inside, here, isDefinition]
      simp only [Node.definitionsFrom, List.map_append, List.map_map, ih behind]
      change (n.definitions outerFirst).map Prod.snd ++ _ = _
      rw [own, List.filter_cons]
      split <;> rfl

/-- Footnotes that claim different ids, none of them known, are all registered as they are. -/
theorem registerAll_definitions {found : List (Path × Node)}
    (apart : found.Pairwise fun a b => ∀ id ∈ a.2.attrs.ids, id ∉ b.2.attrs.ids)
    (unknown : ∀ added ∈ found, ∀ id ∈ added.2.attrs.ids, id ∉ d.ids)
    (claims : ∀ added ∈ found, added.2.attrs.ids ≠ []) :
    (d.registerAll found).definitions = d.definitions ++
      found.map fun added => ⟨added.2.attrs.ids.eraseDups, some added.1, added.2⟩ := by
  induction found generalizing d with
  | nil => simp [registerAll]
  | cons first rest ih =>
      obtain ⟨before, apart⟩ := List.pairwise_cons.mp apart
      obtain ⟨new, unknown⟩ := List.forall_mem_cons.mp unknown
      obtain ⟨some, claims⟩ := List.forall_mem_cons.mp claims
      have free : first.2.attrs.ids.filter (!d.ids.contains ·) = first.2.attrs.ids := by
        simpa [List.filter_eq_self] using new
      have registered : (d.register first).definitions =
          d.definitions ++ [⟨first.2.attrs.ids.eraseDups, .some first.1, first.2⟩] := by
        rw [register, free]
        split
        · next none =>
            obtain ⟨id, member⟩ := List.exists_mem_of_ne_nil _ some
            rw [← List.mem_eraseDups, none] at member
            cases member
        · rfl
      have behind := ih (d := d.register first) apart (fun added member id claimed => by
        rw [mem_ids_register, not_or]
        exact ⟨unknown added member id claimed, fun twice => before added member id twice claimed⟩)
        claims
      rw [List.map_cons, List.append_cons, ← registered]
      exact behind

theorem foldl_append_definitions (d : Document) (ns : List Node) :
    (ns.foldl append d).definitions =
      (d.registerAll (Node.definitionsFrom true d.children.length ns)).definitions := by
  induction ns generalizing d with
  | nil => rfl
  | cons n rest ih =>
      have first : (d.append n).definitions =
          (d.registerAll (Node.definitionsFrom true d.children.length [n])).definitions := by
        apply registerAll_congr
        rfl
      have split : Node.definitionsFrom true d.children.length (n :: rest) =
          Node.definitionsFrom true d.children.length [n] ++
            Node.definitionsFrom true (d.children.length + 1) rest :=
        Node.definitionsFrom_append true d.children.length [n] rest
      rw [List.foldl_cons, ih, split, registerAll, registerAll, List.foldl_append]
      simp only [append_children, List.length_append, List.length_singleton]
      exact registerAll_congr first _

theorem foldl_append_children (d : Document) (ns : List Node) :
    (ns.foldl append d).children = d.children ++ ns := by
  induction ns generalizing d with
  | nil => simp
  | cons n rest ih => simp [ih]

namespace PutTogether

variable {ns : List Node}

theorem children (h : PutTogether ns d) : d.children = ns := by
  cases h with
  | oneByOne => exact foldl_append_children {} ns
  | atOnce => exact appendBuilt_children {} ns

theorem definitions (h : PutTogether ns d) : ∃ outerFirst,
    d.definitions = (registerAll {} (Node.definitionsFrom outerFirst 0 ns)).definitions := by
  cases h with
  | oneByOne => exact ⟨true, foldl_append_definitions {} ns⟩
  | atOnce =>
      refine ⟨false, ?_⟩
      apply registerAll_congr
      rfl

theorem registered (h : PutTogether ns d) : d.Registered := by
  cases h with
  | oneByOne => exact registered_empty.foldl_append ns
  | atOnce => exact registered_empty.appendBuilt ns

theorem claimed (h : PutTogether ns d) : d.Claimed := by
  intro c member found inside id claims
  obtain ⟨outerFirst, same⟩ := h.definitions
  have ids : d.ids = (registerAll {} (Node.definitionsFrom outerFirst 0 ns)).ids := by
    simp only [Document.ids, same]
  obtain ⟨located, isDefinition⟩ := Node.mem_positions.mp (Node.mem_definitions.mp inside)
  rw [h.children] at member
  obtain ⟨i, bound, rfl⟩ := List.mem_iff_getElem.mp member
  rw [ids, mem_ids_registerAll]
  refine .inr ⟨((0 + i) :: found.1, found.2), ?_, claims⟩
  exact Node.mem_definitionsFrom_iff.mpr
    ⟨i, ns[i], found.1, rfl, List.getElem?_eq_getElem bound, located, isDefinition⟩

/-- An id is held by the one footnote that claims it. -/
theorem held?_eq (h : PutTogether ns d) (notes : NotesAtTop ns) (id : List Char) :
    d.held? id = ((ns.filter Node.isDefinition).find? (·.attrs.ids.contains id)).map
      fun n => (n.attrs.ids.eraseDups, n) := by
  obtain ⟨outerFirst, same⟩ := h.definitions
  have listed := definitionsFrom_top notes.top outerFirst 0
  have apart : (Node.definitionsFrom outerFirst 0 ns).Pairwise
      fun a b => ∀ id ∈ a.2.attrs.ids, id ∉ b.2.attrs.ids := by
    rw [← List.pairwise_map (f := Prod.snd)
      (R := fun m n : Node => ∀ id ∈ m.attrs.ids, id ∉ n.attrs.ids), listed, List.pairwise_filter]
    exact notes.distinct.imp fun differ isM isN =>
      differ (Node.isFootnote_of_isDefinition isM) (Node.isFootnote_of_isDefinition isN)
  have claims : ∀ added ∈ Node.definitionsFrom outerFirst 0 ns, added.2.attrs.ids ≠ [] := by
    intro added member
    have isDefinition : added.2 ∈ ns.filter Node.isDefinition :=
      listed ▸ List.mem_map_of_mem member
    have filled := (List.mem_filter.mp isDefinition).2
    simp only [Node.isDefinition, Bool.and_eq_true, Bool.not_eq_true', List.isEmpty_eq_false_iff]
      at filled
    exact filled.2
  rw [registerAll_definitions apart (fun _ _ _ _ => List.not_mem_nil) claims] at same
  simp only [held?, definition?, same, List.nil_append, ← listed, List.find?_map, Option.map_map,
    Function.comp_def, List.contains_eq_mem, List.mem_eraseDups]

end PutTogether

/-- Where at most one node satisfies `p`, it is found in any order. -/
theorem find?_perm {p : Node → Bool} {ns ns' : List Node} (perm : ns.Perm ns')
    (one : ns.Pairwise fun m n => p m = true → p n = false) : ns.find? p = ns'.find? p := by
  induction perm with
  | nil => rfl
  | cons n _ ih => simp only [List.find?_cons, ih (List.pairwise_cons.mp one).2]
  | swap m n rest =>
      have other : p n = true → p m = false := (List.pairwise_cons.mp one).1 m List.mem_cons_self
      cases isN : p n <;> cases isM : p m <;> simp_all
  | trans first _ ih ih' =>
      have symm : ∀ {m n : Node}, (p m = true → p n = false) → (p n = true → p m = false) := by
        intro m n h isN
        cases isM : p m with
        | false => rfl
        | true => rw [h isM] at isN; cases isN
      exact (ih one).trans (ih' ((first.pairwise_iff symm).mp one))

/-- Children in another order, in which the footnotes stand elsewhere, register the same. -/
theorem PutTogether.sameRegister {ns ns' : List Node} (notes : NotesAtTop ns) (perm : ns.Perm ns')
    (h : PutTogether ns d) (h' : PutTogether ns' d') : d.SameRegister d' := by
  have symm : ∀ {m n : Node}, (m.hasTag .footnote = true → n.hasTag .footnote = true →
      ∀ id ∈ m.attrs.ids, id ∉ n.attrs.ids) → n.hasTag .footnote = true →
      m.hasTag .footnote = true → ∀ id ∈ n.attrs.ids, id ∉ m.attrs.ids :=
    fun differ isN isM id inN inM => differ isM isN id inM inN
  have notes' : NotesAtTop ns' :=
    ⟨fun n member => notes.top n (perm.mem_iff.mpr member),
      (perm.pairwise_iff symm).mp notes.distinct⟩
  intro id
  rw [h.held?_eq notes, h'.held?_eq notes']
  refine congrArg _ (find?_perm (perm.filter _) ?_)
  refine List.pairwise_filter.mpr (notes.distinct.imp fun {m n} differ isM isN inM => ?_)
  have apart := differ (Node.isFootnote_of_isDefinition isM) (Node.isFootnote_of_isDefinition isN)
  simpa using apart id (by simpa using inM)

end Document

open Document in
/-- Moving footnotes, or taking them away after they were registered, does not change what is
    rendered. Documents that come from one document in this way render alike, if that one is not
    too deep. So do documents that are put together from the same blocks, with footnotes of
    different ids at other places among them, whatever footnotes are moved or taken away then. -/
theorem render_rearranged (settings : Settings) (metadata : Option Metadata) :
    (∀ d e e' : Document, d.Registered → d.Claimed → d.Rearranged e → d.Rearranged e' →
      d.checkDepth settings.maxNestingDepth = .ok () →
      render e settings metadata = render e' settings metadata) ∧
    ∀ (ns ns' : List Node) (d d' e e' : Document), NotesAtTop ns → ns.Perm ns' →
      (ns.filter fun c => !c.hasTag .footnote) = (ns'.filter fun c => !c.hasTag .footnote) →
      PutTogether ns d → PutTogether ns' d' → d.Rearranged e → d'.Rearranged e' →
      d.checkDepth settings.maxNestingDepth = .ok () →
      render e settings metadata = render e' settings metadata := by
  constructor
  · intro d e e' registered claimed h h' depth
    exact h.render_eq registered claimed h' depth metadata
  · intro ns ns' d d' e e' notes perm order built built' h h' depth
    have depth' : d'.checkDepth settings.maxNestingDepth = .ok () := by
      refine checkDepth_of_subset depth fun c member => ?_
      rw [built.children]
      exact perm.mem_iff.mpr (built'.children ▸ member)
    have body : d.body = d'.body := by
      rw [Document.body, Document.body, built.children, built'.children, order]
    calc render e settings metadata
        = render d settings metadata :=
          h.render_eq built.registered built.claimed .same depth metadata
      _ = render d' settings metadata :=
          render_congr (built.sameRegister notes perm built') body depth depth' metadata
      _ = render e' settings metadata :=
          Rearranged.render_eq built'.registered built'.claimed .same h' depth' metadata

open Document in
/-- Two footnotes that refer to each other, one of them in front of a block that refers to it. It
    is taken away in one document, and moved behind the other one, and back, in a second one. -/
theorem render_rearranged_cycle :
    let mark (id : Char) (number : Int) : Node :=
      .element .footnoteReference { refid := some [id], noteid := some number } []
    let note (id : Char) (number : Int) (inside : List Node) : Node :=
      .element .footnote { ids := [[id]], noteid := some number } [.element .paragraph {} inside]
    let first := note 'a' 1 [.text ['x'], mark 'b' 2]
    let second := note 'b' 2 [.text ['y'], mark 'a' 1]
    let block : Node := .element .paragraph {} [.text ['t'], mark 'a' 1]
    let e := (ofChildren [first, block, second]).remove [] 0
    let e' := ((appendBuilt {} [block, second, first]).remove [] 2).insert [] 0 first
    render e {} none = render e' {} none ∧
      render e {} none =
        .ok "t[^1]\n\n[^1]: x[^2]\n[^2]: y[^1]\n[^1]: x[^2]\n".toList := by
  intro mark note first second block e e'
  have notes : NotesAtTop [first, block, second] := ⟨by decide, by decide⟩
  have perm : [first, block, second].Perm [block, second, first] :=
    (List.Perm.swap block first [second]).trans (.cons block (.swap second first []))
  have isNote : first.hasTag .footnote = true := rfl
  have taken : (ofChildren [first, block, second]).Rearranged e :=
    .take .same (by simp [ofChildren]) isNote
  have putBack : (appendBuilt {} [block, second, first]).Rearranged e' :=
    .put (.take .same (by simp) isNote) (by simp) isNote 0
  have shallow : (ofChildren [first, block, second]).checkDepth 100 = .ok () := by decide
  have alike := (render_rearranged {} none).2 _ _ _ _ e e' notes perm (by decide) .oneByOne .atOnce
    taken putBack shallow
  refine ⟨alike, ?_⟩
  clear notes perm isNote taken putBack shallow alike
  dsimp only [e, first, second, block, note, mark]
  cbv

end Gemtext
