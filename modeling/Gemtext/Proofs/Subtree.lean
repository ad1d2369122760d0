import Gemtext.Links

/-! # Subtrees

Induction over document trees, and the nodes of a tree by position. A position is the path
from the root of the tree; document order is the lexicographic order on paths, in which a
node stands before what is inside it.
-/

namespace Gemtext.Node

/-- Induction over a tree, with the hypothesis for every child of an element. -/
@[elab_as_elim]
theorem rec_strong {motive : Node → Prop} (text : ∀ t, motive (.text t))
    (element : ∀ tag attrs children, (∀ c ∈ children, motive c) →
      motive (.element tag attrs children)) :
    ∀ n, motive n
  | .text t => text t
  | .element tag attrs children =>
      element tag attrs children fun c _ => rec_strong text element c
termination_by n => sizeOf n
decreasing_by
  have smaller := List.sizeOf_lt_of_mem ‹c ∈ children›
  simp only [Node.element.sizeOf_spec]
  omega

/-! ## Positions -/

mutual
/-- The nodes of a tree that satisfy `p`, each with its path, in document order. -/
def positions (p : Node → Bool) : Node → List (Path × Node)
  | text t => if p (text t) then [([], text t)] else []
  | element tag attrs children =>
      (if p (element tag attrs children) then [([], element tag attrs children)] else []) ++
        positionsFrom p 0 children

/-- The nodes of sibling trees that satisfy `p`, with their paths from the parent. The first
    sibling has the index `index`. -/
def positionsFrom (p : Node → Bool) (index : Nat) : List Node → List (Path × Node)
  | [] => []
  | n :: rest =>
      (positions p n).map (fun found => (index :: found.1, found.2)) ++
        positionsFrom p (index + 1) rest
end

variable {p : Node → Bool}

theorem positionsFrom_map_snd {children : List Node}
    (ih : ∀ c ∈ children, (c.positions p).map Prod.snd = c.filter p) (index : Nat) :
    (positionsFrom p index children).map Prod.snd = filterAll p children := by
  induction children generalizing index with
  | nil => rfl
  | cons c rest tail =>
      have head : (c.positions p).map Prod.snd = c.filter p := ih c List.mem_cons_self
      have inside := tail (fun m member => ih m (List.mem_cons_of_mem c member)) (index + 1)
      simp only [positionsFrom, filterAll, List.map_append, List.map_map, inside, ← head]
      rfl

/-- Without their paths, the positions are the nodes in document order. -/
theorem positions_map_snd (p : Node → Bool) (n : Node) :
    (n.positions p).map Prod.snd = n.filter p := by
  induction n using rec_strong with
  | text t => by_cases h : p (text t) = true <;> simp [positions, filter, h]
  | element tag attrs children ih =>
      by_cases h : p (element tag attrs children) = true <;>
        simp [positions, filter, h, positionsFrom_map_snd ih]

theorem mem_positionsFrom {children : List Node}
    (ih : ∀ c ∈ children, ∀ path m, (path, m) ∈ c.positions p ↔
      c.at? path = some m ∧ p m = true) (index : Nat) {path : Path} {m : Node} :
    (path, m) ∈ positionsFrom p index children ↔
      ∃ i c rest, path = (index + i) :: rest ∧ children[i]? = some c ∧
        c.at? rest = some m ∧ p m = true := by
  induction children generalizing index with
  | nil => simp [positionsFrom]
  | cons c siblings tail =>
      have head := ih c List.mem_cons_self
      have inside := tail (fun n member => ih n (List.mem_cons_of_mem c member)) (index + 1)
      simp only [positionsFrom, List.mem_append, inside]
      constructor
      · rintro (member | ⟨i, c', rest, rfl, located, below⟩)
        · obtain ⟨⟨rest, m'⟩, found, same⟩ := List.mem_map.mp member
          obtain ⟨rfl, rfl⟩ := Prod.mk.inj same
          exact ⟨0, c, rest, rfl, rfl, (head rest m').mp found⟩
        · exact ⟨i + 1, c', rest, by simp only [Nat.add_assoc, Nat.add_comm 1 i],
            by simpa using located, below⟩
      · rintro ⟨i, c', rest, rfl, located, below⟩
        cases i with
        | zero =>
            obtain rfl : c = c' := by simpa using located
            exact .inl (List.mem_map.mpr ⟨(rest, m), (head rest m).mpr below, rfl⟩)
        | succ i =>
            exact .inr ⟨i, c', rest, by simp only [Nat.add_assoc, Nat.add_comm 1 i],
              by simpa using located, below⟩

theorem mem_root {n m : Node} {path : Path} :
    (path, m) ∈ (if p n = true then [(([] : Path), n)] else []) ↔
      path = [] ∧ n = m ∧ p m = true := by
  by_cases h : p n = true
  · simp only [h, if_true, List.mem_singleton, Prod.mk.injEq]
    exact ⟨fun ⟨top, same⟩ => ⟨top, same.symm, same ▸ h⟩, fun ⟨top, same, _⟩ => ⟨top, same.symm⟩⟩
  · simp only [h, Bool.false_eq_true, if_false, List.not_mem_nil, false_iff]
    rintro ⟨_, rfl, holds⟩
    exact h holds

/-- A node is found at a position exactly if it stands at that path and satisfies `p`. -/
theorem mem_positions {n : Node} {path : Path} {m : Node} :
    (path, m) ∈ n.positions p ↔ n.at? path = some m ∧ p m = true := by
  induction n using rec_strong generalizing path m with
  | text t =>
      rw [positions, mem_root]
      cases path with
      | nil => simp [at?]
      | cons i rest => simp [at?, children]
  | element tag attrs siblings ih =>
      rw [positions, List.mem_append, mem_root,
        mem_positionsFrom (fun c member path m => ih c member) 0]
      cases path with
      | nil => simp [at?]
      | cons i rest =>
          simp only [reduceCtorEq, false_and, false_or, Nat.zero_add, List.cons.injEq, at?, children,
            Option.bind_eq_some_iff]
          constructor
          · rintro ⟨j, c, path, ⟨rfl, rfl⟩, located, found, holds⟩
            exact ⟨⟨c, located, found⟩, holds⟩
          · rintro ⟨⟨c, located, found⟩, holds⟩
            exact ⟨i, c, rest, ⟨rfl, rfl⟩, located, found, holds⟩

theorem positionsFrom_index_le {children : List Node} {index : Nat} {found : Path × Node}
    (member : found ∈ positionsFrom p index children) :
    ∃ i rest, found.1 = i :: rest ∧ index ≤ i := by
  induction children generalizing index with
  | nil => cases member
  | cons c siblings tail =>
      rcases List.mem_append.mp member with here | behind
      · obtain ⟨below, _, rfl⟩ := List.mem_map.mp here
        exact ⟨index, below.1, rfl, Nat.le_refl _⟩
      · obtain ⟨i, rest, same, le⟩ := tail behind
        exact ⟨i, rest, same, by omega⟩

theorem positionsFrom_sorted {children : List Node}
    (ih : ∀ c ∈ children, (c.positions p).Pairwise fun a b => a.1 < b.1) (index : Nat) :
    (positionsFrom p index children).Pairwise fun a b => a.1 < b.1 := by
  induction children generalizing index with
  | nil => exact .nil
  | cons c siblings tail =>
      refine List.pairwise_append.mpr ⟨?_, tail
        (fun n member => ih n (List.mem_cons_of_mem c member)) (index + 1), ?_⟩
      · refine List.pairwise_map.mpr ((ih c List.mem_cons_self).imp fun before => ?_)
        exact List.cons_lt_cons_iff.mpr (.inr ⟨rfl, before⟩)
      · intro a here b behind
        obtain ⟨below, _, rfl⟩ := List.mem_map.mp here
        obtain ⟨i, rest, same, le⟩ := positionsFrom_index_le behind
        rw [same]
        exact List.cons_lt_cons_iff.mpr (.inl (by omega))

theorem positions_sorted (p : Node → Bool) (n : Node) :
    (n.positions p).Pairwise fun a b => a.1 < b.1 := by
  induction n using rec_strong with
  | text t => by_cases h : p (text t) = true <;> simp [positions, h]
  | element tag attrs children ih =>
      refine List.pairwise_append.mpr ⟨?_, positionsFrom_sorted ih 0, ?_⟩
      · split <;> simp
      · intro a here b below
        have root : a.1 = [] := by
          split at here
          · rw [List.mem_singleton.mp here]
          · cases here
        obtain ⟨i, rest, same, _⟩ := positionsFrom_index_le below
        rw [root, same]
        exact List.nil_lt_cons i rest

theorem mem_filter {n m : Node} :
    m ∈ n.filter p ↔ ∃ path, n.at? path = some m ∧ p m = true := by
  rw [← positions_map_snd, List.mem_map]
  constructor
  · rintro ⟨found, member, rfl⟩
    exact ⟨found.1, mem_positions.mp member⟩
  · rintro ⟨path, here⟩
    exact ⟨(path, m), mem_positions.mpr here, rfl⟩

theorem mem_links {n link : Node} :
    link ∈ n.links ↔ ∃ path, n.at? path = some link ∧ link.tagIs Tag.isLink = true :=
  mem_filter

theorem eq_element_of_hasTag {n : Node} {tag : Tag} (h : n.hasTag tag = true) :
    ∃ attrs children, n = .element tag attrs children := by
  cases n with
  | text t => cases h
  | element own attrs children =>
      obtain rfl : own = tag := by simpa [hasTag, tagIs, tag?] using h
      exact ⟨attrs, children, rfl⟩

theorem tagIs_of_hasTag {n : Node} {tag : Tag} (h : n.hasTag tag = true) {p : Tag → Bool}
    (holds : p tag = true) : n.tagIs p = true := by
  obtain ⟨attrs, children, rfl⟩ := eq_element_of_hasTag h
  exact holds

theorem at?_child {tag : Tag} {attrs : Attributes} {children : List Node} {c m : Node}
    {path : Path} (member : c ∈ children) (h : c.at? path = some m) :
    ∃ path, (element tag attrs children).at? path = some m := by
  obtain ⟨i, inside, rfl⟩ := List.mem_iff_getElem.mp member
  refine ⟨i :: path, ?_⟩
  rw [at?, Node.children, List.getElem?_eq_getElem inside]
  exact h

theorem mem_filter_of_child {tag : Tag} {attrs : Attributes} {children : List Node} {c m : Node}
    (member : c ∈ children) (h : m ∈ c.filter p) : m ∈ (element tag attrs children).filter p := by
  obtain ⟨path, located, holds⟩ := mem_filter.mp h
  obtain ⟨path', found⟩ := at?_child member located
  exact mem_filter.mpr ⟨path', found, holds⟩

end Gemtext.Node
