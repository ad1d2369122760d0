import Gemtext.Proofs.Subtree

/-! # The register of footnote definitions

Registering only adds definitions. Afterwards every id of a registered definition is held by
some definition, and every registered definition is a node of a tree that was added.
-/

namespace Gemtext

/-! ## Definitions in a tree -/

namespace Node

/-- A footnote definition that has ids. -/
def isDefinition (n : Node) : Bool := n.hasTag .footnote && !n.attrs.ids.isEmpty

theorem mem_definitionsFrom {outerFirst : Bool} {children : List Node} {found : Path × Node}
    (ih : ∀ c ∈ children, ∀ found, found ∈ c.definitions outerFirst ↔ found ∈ c.positions isDefinition)
    (index : Nat) :
    found ∈ definitionsFrom outerFirst index children ↔
      found ∈ positionsFrom isDefinition index children := by
  induction children generalizing index with
  | nil => simp [definitionsFrom, positionsFrom]
  | cons c rest tail =>
      have inside := tail (fun m member => ih m (List.mem_cons_of_mem c member)) (index + 1)
      simp only [definitionsFrom, positionsFrom, List.mem_append, List.mem_map, inside,
        ih c List.mem_cons_self]

/-- The definitions of a tree are its footnotes with ids, in whatever order they are listed. -/
theorem mem_definitions {outerFirst : Bool} {n : Node} {found : Path × Node} :
    found ∈ n.definitions outerFirst ↔ found ∈ n.positions isDefinition := by
  induction n using rec_strong generalizing found with
  | text t => simp [definitions, positions, isDefinition, hasTag, tagIs, tag?]
  | element tag attrs children ih =>
      have inside : found ∈ definitionsFrom outerFirst 0 children ↔
          found ∈ positionsFrom isDefinition 0 children :=
        mem_definitionsFrom (fun c member found => ih c member) 0
      cases outerFirst with
      | false =>
          simp only [definitions, positions, Bool.false_eq_true, if_false, List.mem_append, inside]
          exact or_comm
      | true => simp only [definitions, positions, if_true, List.mem_append, inside]; rfl

theorem mem_definitionsFrom_iff {outerFirst : Bool} {index : Nat} {children : List Node}
    {path : Path} {m : Node} :
    (path, m) ∈ definitionsFrom outerFirst index children ↔
      ∃ i c rest, path = (index + i) :: rest ∧ children[i]? = some c ∧ c.at? rest = some m ∧
        m.isDefinition = true := by
  rw [mem_definitionsFrom fun _ _ _ => mem_definitions]
  exact mem_positionsFrom (fun _ _ _ _ => mem_positions) index

theorem isFootnote_of_isDefinition {n : Node} (h : n.isDefinition = true) :
    n.hasTag .footnote = true :=
  (Bool.and_eq_true_iff.mp h).1

/-- No footnote definition stands in a tree. -/
def HoldsNoFootnote (n : Node) : Prop := ∀ path m, n.at? path = some m → m.hasTag .footnote = false

theorem holdsNoFootnote_iff {n : Node} :
    n.HoldsNoFootnote ↔ n.filter (·.hasTag .footnote) = [] := by
  rw [List.eq_nil_iff_forall_not_mem]
  constructor
  · intro none m member
    obtain ⟨path, located, isFootnote⟩ := mem_filter.mp member
    exact Bool.noConfusion ((none path m located).symm.trans isFootnote)
  · intro none path m located
    rw [← Bool.not_eq_true]
    exact fun isFootnote => none m (mem_filter.mpr ⟨path, located, isFootnote⟩)

instance (n : Node) : Decidable n.HoldsNoFootnote := decidable_of_iff _ holdsNoFootnote_iff.symm

theorem definitions_eq_nil {n : Node} (none : n.HoldsNoFootnote) (outerFirst : Bool) :
    n.definitions outerFirst = [] := by
  rw [List.eq_nil_iff_forall_not_mem]
  intro found member
  obtain ⟨located, isDefinition⟩ := mem_positions.mp (mem_definitions.mp member)
  rw [Node.isDefinition, none _ _ located] at isDefinition
  cases isDefinition

theorem definitionsFrom_append (outerFirst : Bool) (index : Nat) (before behind : List Node) :
    definitionsFrom outerFirst index (before ++ behind) =
      definitionsFrom outerFirst index before ++
        definitionsFrom outerFirst (index + before.length) behind := by
  induction before generalizing index with
  | nil => rfl
  | cons c rest ih =>
      simp only [List.cons_append, definitionsFrom, ih, List.append_assoc, List.length_cons,
        Nat.add_assoc, Nat.add_comm 1 rest.length]

/-- A node without footnote definitions may be exchanged for another one. -/
theorem definitionsFrom_exchange {c c' : Node} (none : c.HoldsNoFootnote)
    (none' : c'.HoldsNoFootnote) (outerFirst : Bool) (index : Nat) (before behind : List Node) :
    definitionsFrom outerFirst index (before ++ c :: behind) =
      definitionsFrom outerFirst index (before ++ c' :: behind) := by
  simp only [definitionsFrom_append, definitionsFrom, definitions_eq_nil none,
    definitions_eq_nil none', List.map_nil]

end Node

/-! ## Registering -/

namespace Document

theorem register_children (d : Document) (found : Path × Node) :
    (d.register found).children = d.children := by
  unfold register
  split <;> rfl

theorem registerAll_children (d : Document) (found : List (Path × Node)) :
    (d.registerAll found).children = d.children := by
  induction found generalizing d with
  | nil => rfl
  | cons first rest ih =>
      exact (ih (d.register first)).trans (d.register_children first)

/-- What is registered depends on what is registered already, and not on the tree. -/
theorem register_congr {d d' : Document} (same : d.definitions = d'.definitions)
    (found : Path × Node) : (d.register found).definitions = (d'.register found).definitions := by
  have ids : d.ids = d'.ids := by rw [Document.ids, same, Document.ids]
  unfold register
  rw [ids]
  split
  · exact same
  · simp only [same]

theorem registerAll_congr {d d' : Document} (same : d.definitions = d'.definitions)
    (found : List (Path × Node)) :
    (d.registerAll found).definitions = (d'.registerAll found).definitions := by
  induction found generalizing d d' with
  | nil => exact same
  | cons first rest ih => exact ih (register_congr same first)

@[simp] theorem append_children (d : Document) (n : Node) :
    (d.append n).children = d.children ++ [n] :=
  registerAll_children ..

@[simp] theorem appendBuilt_children (d : Document) (ns : List Node) :
    (d.appendBuilt ns).children = d.children ++ ns :=
  registerAll_children ..

theorem append_congr {d d' : Document} (length : d.children.length = d'.children.length)
    (same : d.definitions = d'.definitions) {n n' : Node}
    (found : Node.definitionsFrom true d.children.length [n] =
      Node.definitionsFrom true d.children.length [n']) :
    (d.append n).children.length = (d'.append n').children.length ∧
      (d.append n).definitions = (d'.append n').definitions := by
  constructor
  · simp only [append_children, List.length_append, length, List.length_singleton]
  · rw [append, append, ← length, ← found]
    apply registerAll_congr
    exact same

theorem appendAll_congr {d d' : Document} (length : d.children.length = d'.children.length)
    (same : d.definitions = d'.definitions) (ns : List Node) :
    (ns.foldl append d).definitions = (ns.foldl append d').definitions := by
  induction ns generalizing d d' with
  | nil => exact same
  | cons n rest ih =>
      obtain ⟨length, same⟩ := append_congr length same rfl
      exact ih length same

/-! ## Ids -/

theorem ids_register (d : Document) (found : Path × Node) :
    (d.register found).ids =
      d.ids ++ (found.2.attrs.ids.filter (!d.ids.contains ·)).eraseDups := by
  unfold register
  split
  · next none => rw [none, List.append_nil]
  · simp only [ids, List.flatMap_append, List.flatMap_cons, List.flatMap_nil, List.append_nil]

theorem mem_ids_register {d : Document} {found : Path × Node} {id : List Char} :
    id ∈ (d.register found).ids ↔ id ∈ d.ids ∨ id ∈ found.2.attrs.ids := by
  rw [ids_register, List.mem_append, List.mem_eraseDups, List.mem_filter, Bool.not_eq_true',
    List.contains_eq_mem, decide_eq_false_iff_not]
  constructor
  · exact Or.imp_right And.left
  · intro held
    by_cases old : id ∈ d.ids
    · exact .inl old
    · exact .inr ⟨held.resolve_left old, old⟩

/-- Registering makes known what was known before, and every id that is claimed. -/
theorem mem_ids_registerAll {d : Document} {found : List (Path × Node)} {id : List Char} :
    id ∈ (d.registerAll found).ids ↔ id ∈ d.ids ∨ ∃ added ∈ found, id ∈ added.2.attrs.ids := by
  induction found generalizing d with
  | nil => simp [registerAll]
  | cons first rest ih =>
      have step : id ∈ (d.registerAll (first :: rest)).ids ↔ _ := ih (d := d.register first)
      rw [step, mem_ids_register, or_assoc]
      simp only [List.mem_cons, exists_eq_or_imp]

/-! ## Where definitions stand -/

/-- What is registered was registered before or is added. -/
theorem mem_registerAll {d : Document} {found : List (Path × Node)} {entry : Definition}
    (member : entry ∈ (d.registerAll found).definitions) :
    entry ∈ d.definitions ∨ ∃ path, entry.place = some path ∧ (path, entry.node) ∈ found := by
  induction found generalizing d with
  | nil => exact .inl member
  | cons first rest ih =>
      rcases ih member with old | ⟨path, stands, added⟩
      · unfold register at old
        split at old
        · exact .inl old
        · rcases List.mem_append.mp old with old | new
          · exact .inl old
          · obtain rfl := List.mem_singleton.mp new
            exact .inr ⟨first.1, rfl, List.mem_cons_self⟩
      · exact .inr ⟨path, stands, List.mem_cons_of_mem first added⟩

/-- Every definition that is registered at a place is the footnote that stands there. -/
def Registered (d : Document) : Prop :=
  ∀ entry ∈ d.definitions, ∀ place, entry.place = some place →
    d.at? place = some entry.node ∧ entry.node.hasTag .footnote = true

variable {d : Document}

theorem registered_empty : Registered {} := fun _ member => nomatch member

theorem at?_cons (d : Document) (i : Nat) (path : Path) :
    d.at? (i :: path) = d.children[i]?.bind (Node.at? path) := rfl

theorem at?_footnote {place : Path} {n : Node} (located : d.at? place = some n)
    (isFootnote : n.hasTag .footnote = true) : ∃ i rest, place = i :: rest := by
  cases place with
  | nil =>
      cases located
      cases isFootnote
  | cons i rest => exact ⟨i, rest, rfl⟩

/-- Documents stay registered when trees are added. -/
theorem Registered.registerAll (h : d.Registered) (ns : List Node) (outerFirst : Bool) :
    Registered (registerAll { d with children := d.children ++ ns }
      (Node.definitionsFrom outerFirst d.children.length ns)) := by
  intro entry member place stands
  rw [Document.at?, root, registerAll_children]
  rcases mem_registerAll member with old | ⟨path, stands', added⟩
  · obtain ⟨located, isFootnote⟩ := h entry old place stands
    obtain ⟨i, rest, rfl⟩ := at?_footnote located isFootnote
    rw [at?_cons] at located
    obtain ⟨c, inside, below⟩ := Option.bind_eq_some_iff.mp located
    have bound := (List.getElem?_eq_some_iff.mp inside).1
    refine ⟨?_, isFootnote⟩
    rw [Node.at?, Node.children, List.getElem?_append_left bound, inside]
    exact below
  · obtain rfl := Option.some.inj (stands'.symm.trans stands)
    obtain ⟨i, c, rest, rfl, inside, below, isDefinition⟩ := Node.mem_definitionsFrom_iff.mp added
    refine ⟨?_, Node.isFootnote_of_isDefinition isDefinition⟩
    rw [Node.at?, Node.children, List.getElem?_append_right (Nat.le_add_right ..),
      Nat.add_sub_cancel_left, inside]
    exact below

theorem Registered.append (h : d.Registered) (n : Node) : (d.append n).Registered :=
  h.registerAll [n] true

theorem Registered.foldl_append (h : d.Registered) (ns : List Node) :
    (ns.foldl Document.append d).Registered := by
  induction ns generalizing d with
  | nil => exact h
  | cons n rest ih => exact ih (h.append n)

theorem Registered.appendBuilt (h : d.Registered) (ns : List Node) :
    (d.appendBuilt ns).Registered :=
  h.registerAll ns false

/-! ## Exchanging a block -/

/-- Where a block without footnote definitions is exchanged for another block, the register
    stays what it was. -/
theorem modifyAt_definitions (h : d.Registered) {i : Nat} {c : Node}
    (located : d.children[i]? = some c) (none : c.HoldsNoFootnote) (c' : Node) :
    (d.modifyAt [i] fun _ => c').definitions = d.definitions := by
  refine (List.map_congr_left fun entry member => ?_).trans (List.map_id _)
  split
  · next place stands =>
      obtain ⟨found, isFootnote⟩ := h entry member place stands
      obtain ⟨k, rest, rfl⟩ := at?_footnote found isFootnote
      rw [at?_cons] at found
      -- What is registered in the block would be a footnote in it.
      have elsewhere : i ≠ k := by
        rintro rfl
        rw [located] at found
        exact Bool.noConfusion ((none rest entry.node found).symm.trans isFootnote)
      have kept : (d.children.modify i fun _ => c')[k]? = d.children[k]? := by
        simp only [List.getElem?_modify, if_neg elsewhere, Option.map_eq_map, Option.map_id']
      rw [at?_cons]
      change { entry with node := (((d.children.modify i fun _ => c')[k]?).bind
        (Node.at? rest)).getD entry.node } = entry
      rw [kept, found, Option.getD_some]
  · rfl

section Exchange

variable {c c' : Node} (none : c.HoldsNoFootnote) (none' : c'.HoldsNoFootnote)

include none none'

/-- Among blocks that are appended one after another, one without footnote definitions leaves no
    trace in the register. -/
theorem appendAll_exchange (d : Document) (before behind : List Node) :
    ((before ++ c :: behind).foldl append d).definitions =
      ((before ++ c' :: behind).foldl append d).definitions := by
  rw [List.foldl_append, List.foldl_append, List.foldl_cons, List.foldl_cons]
  obtain ⟨length, same⟩ := append_congr (d := before.foldl append d) rfl rfl
    (Node.definitionsFrom_exchange none none' true _ [] [])
  exact appendAll_congr length same behind

/-- Nor does it among blocks that are appended together. -/
theorem appendBuilt_exchange (d : Document) (before behind : List Node) :
    (d.appendBuilt (before ++ c :: behind)).definitions =
      (d.appendBuilt (before ++ c' :: behind)).definitions := by
  rw [appendBuilt, appendBuilt, Node.definitionsFrom_exchange none none']
  apply registerAll_congr
  rfl

end Exchange

end Document

end Gemtext
