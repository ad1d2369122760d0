import Mathlib.Algebra.GroupWithZero.Nat
import Gemtext.Depth
import Gemtext.Proofs.Subtree

/-! # The search for a node that lies too deep

The depth of a document is checked with a stack: a node is taken from it, and its children are put
onto it with a depth one greater, so that the last of them is looked at next. What the search finds
from a stack is what the nodes on it, one after the other, have beyond the limit. From the document
it is the last node, in document order, on the first level past the limit.
-/

namespace Gemtext

namespace Node

/-! ## The stack -/

theorem sum_sizeOf_le (ns : List Node) : (ns.map sizeOf).sum ≤ sizeOf ns := by
  induction ns with
  | nil => simp
  | cons n rest ih =>
      simp only [List.map_cons, List.sum_cons, List.cons.sizeOf_spec]
      omega

/-- The children of a node, with their depth, as they come onto a stack. -/
def pushed (depth : Int) (n : Node) : List (Node × Int) :=
  (n.children.map fun c => (c, depth + 1)).reverse

/-- The children of a node are smaller than the node, all of them together. -/
theorem pushed_lt (depth : Int) (n : Node) :
    ((n.pushed depth).map fun entry => sizeOf entry.1).sum < sizeOf n := by
  have sum : ((n.pushed depth).map fun entry => sizeOf entry.1).sum =
      (n.children.map sizeOf).sum := by
    rw [pushed, List.map_reverse, List.sum_reverse, List.map_map]
    rfl
  have below := sum_sizeOf_le n.children
  rw [sum]
  cases n with
  | text t =>
      simp only [children, List.map_nil, List.sum_nil, Node.text.sizeOf_spec]
      omega
  | element tag attrs children =>
      simp only [Node.children, Node.element.sizeOf_spec] at below ⊢
      omega

/-- Takes nodes from a stack until one lies too deep. -/
def search (limit : Int) : List (Node × Int) → Option Node
  | [] => none
  | (n, depth) :: stack =>
    if limit < depth then some n else search limit (n.pushed depth ++ stack)
termination_by stack => (stack.map fun entry => sizeOf entry.1).sum
decreasing_by
  have smaller := pushed_lt depth n
  simp only [List.map_append, List.sum_append, List.map_cons, List.sum_cons]
  omega

theorem lastBeyondIn_eq_findSome? (limit depth : Int) (ns : List Node) :
    lastBeyondIn limit depth ns = ns.reverse.findSome? (lastBeyond limit depth) := by
  induction ns with
  | nil => rfl
  | cons n rest ih =>
      rw [lastBeyondIn, ih, List.reverse_cons, List.findSome?_append]
      cases rest.reverse.findSome? (lastBeyond limit depth) <;> simp

/-- What is beyond the limit below a node that is not is found on the stack of its children. -/
theorem findSome?_pushed {limit depth : Int} (n : Node) (within : ¬limit < depth) :
    (n.pushed depth).findSome? (fun entry => entry.1.lastBeyond limit entry.2) =
      n.lastBeyond limit depth := by
  rw [pushed, ← List.map_reverse, List.findSome?_map]
  cases n with
  | text t => simp [children, lastBeyond, within]
  | element tag attrs children =>
      rw [lastBeyond, if_neg within, lastBeyondIn_eq_findSome?]
      rfl

/-- The invariant of the search: from here on it finds the first of what the nodes on the stack
    have beyond the limit. -/
theorem search_eq_findSome? (limit : Int) (stack : List (Node × Int)) :
    search limit stack = stack.findSome? fun entry => entry.1.lastBeyond limit entry.2 := by
  induction stack using search.induct limit with
  | case1 => simp [search]
  | case2 n depth stack beyond =>
      have here : n.lastBeyond limit depth = some n := by
        cases n <;> simp [lastBeyond, beyond]
      rw [search, if_pos beyond, List.findSome?_cons, here]
  | case3 n depth stack within ih =>
      rw [search, if_neg within, ih, List.findSome?_append, findSome?_pushed n within,
        List.findSome?_cons]
      cases n.lastBeyond limit depth <;> rfl

/-! ## Levels -/

/-- The nodes that lie a number of levels below a node, with their paths, in document order. -/
def level (n : Node) (k : Nat) : List (Path × Node) :=
  (n.positions fun _ => true).filter fun found => found.1.length == k

theorem mem_level {n m : Node} {k : Nat} {path : Path} :
    (path, m) ∈ n.level k ↔ n.at? path = some m ∧ path.length = k := by
  simp [level, mem_positions]

theorem level_sorted (n : Node) (k : Nat) : (n.level k).Pairwise fun a b => a.1 < b.1 :=
  (positions_sorted _ n).filter _

/-- A node has a node on every level above it. -/
theorem at?_take {n m : Node} {path : Path} (located : n.at? path = some m) (k : Nat) :
    ∃ above, n.at? (path.take k) = some above := by
  induction path generalizing n k with
  | nil => exact ⟨n, by rw [List.take_nil]; rfl⟩
  | cons i rest ih =>
      cases k with
      | zero => exact ⟨n, rfl⟩
      | succ k =>
          obtain ⟨c, child, below⟩ := Option.bind_eq_some_iff.mp located
          obtain ⟨above, found⟩ := ih below k
          exact ⟨above, Option.bind_eq_some_iff.mpr ⟨c, child, found⟩⟩

/-- The last node on a level is the one behind all others on it. -/
theorem getLast?_level {n m : Node} {k : Nat} :
    (n.level k).getLast?.map Prod.snd = some m ↔
      ∃ path, n.at? path = some m ∧ path.length = k ∧
        ∀ other m', n.at? other = some m' → other.length = k → other ≠ path → other < path := by
  have sorted := n.level_sorted k
  constructor
  · intro last
    obtain ⟨⟨path, found⟩, isLast, rfl⟩ := Option.map_eq_some_iff.mp last
    obtain ⟨before, split⟩ := List.getLast?_eq_some_iff.mp isLast
    have member : (path, found) ∈ n.level k := List.mem_of_getLast? isLast
    obtain ⟨located, length⟩ := mem_level.mp member
    refine ⟨path, located, length, fun other m' elsewhere same apart => ?_⟩
    have among : (other, m') ∈ n.level k := mem_level.mpr ⟨elsewhere, same⟩
    rw [split] at sorted among
    rcases List.mem_append.mp among with front | back
    · exact (List.pairwise_append.mp sorted).2.2 _ front _ (List.mem_singleton.mpr rfl)
    · exact absurd (Prod.mk.inj (List.mem_singleton.mp back)).1 apart
  · rintro ⟨path, located, length, behind⟩
    have member : (path, m) ∈ n.level k := mem_level.mpr ⟨located, length⟩
    obtain ⟨⟨other, m'⟩, isLast⟩ : ∃ last, (n.level k).getLast? = some last :=
      ⟨_, List.getLast?_eq_some_getLast (List.ne_nil_of_mem member)⟩
    obtain ⟨before, split⟩ := List.getLast?_eq_some_iff.mp isLast
    obtain ⟨elsewhere, same⟩ := mem_level.mp (List.mem_of_getLast? isLast)
    rw [split] at sorted member
    rcases List.mem_append.mp member with front | back
    · -- The last node would stand behind one that has none behind it.
      have lt : path < other :=
        (List.pairwise_append.mp sorted).2.2 _ front _ (List.mem_singleton.mpr rfl)
      have apart : other ≠ path := fun same => List.lt_irrefl path (same ▸ lt)
      exact absurd lt (List.lt_asymm (behind other m' elsewhere same apart))
    · obtain ⟨rfl, rfl⟩ := Prod.mk.inj (List.mem_singleton.mp back)
      rw [isLast]
      rfl

/-- The nodes that lie a number of levels below siblings, with their paths from the parent. -/
def levelFrom (index : Nat) (ns : List Node) (k : Nat) : List (Path × Node) :=
  (positionsFrom (fun _ => true) index ns).filter fun found => found.1.length == k + 1

theorem levelFrom_cons (index : Nat) (n : Node) (rest : List Node) (k : Nat) :
    levelFrom index (n :: rest) k =
      (n.level k).map (fun found => (index :: found.1, found.2)) ++
        levelFrom (index + 1) rest k := by
  rw [levelFrom, positionsFrom, List.filter_append, List.filter_map, level, levelFrom]
  congr 3
  funext found
  simp

theorem level_zero (n : Node) : n.level 0 = [([], n)] := by
  cases n with
  | text t => rfl
  | element tag attrs children =>
      rw [level, positions, List.filter_append]
      have none : (positionsFrom (fun _ => true) 0 children).filter
          (fun found => found.1.length == 0) = [] := by
        rw [List.filter_eq_nil_iff]
        intro found member
        obtain ⟨i, rest, same, _⟩ := positionsFrom_index_le member
        simp [same]
      rw [none]
      rfl

theorem level_succ (tag : Tag) (attrs : Attributes) (children : List Node) (k : Nat) :
    (element tag attrs children).level (k + 1) = levelFrom 0 children k := rfl

/-- What is found among siblings is the last of their nodes on a level, if each of them finds the
    last of its own. -/
theorem lastBeyondIn_eq_getLast? {limit depth : Int} {k : Nat} {ns : List Node}
    (each : ∀ n ∈ ns, n.lastBeyond limit depth = (n.level k).getLast?.map Prod.snd) (index : Nat) :
    lastBeyondIn limit depth ns = (levelFrom index ns k).getLast?.map Prod.snd := by
  induction ns generalizing index with
  | nil => rfl
  | cons n rest ih =>
      obtain ⟨first, behind⟩ := List.forall_mem_cons.mp each
      rw [lastBeyondIn, ih behind (index + 1), first, levelFrom_cons, List.getLast?_append,
        List.getLast?_map]
      cases (levelFrom (index + 1) rest k).getLast? with
      | none => cases (n.level k).getLast? <;> rfl
      | some found => rfl

/-- What is found beyond a limit is the last node on the first level past it. -/
theorem lastBeyond_eq_getLast? {limit depth : Int} {k : Nat} (first : limit + 1 = depth + k)
    (n : Node) : n.lastBeyond limit depth = (n.level k).getLast?.map Prod.snd := by
  induction n using rec_strong generalizing depth k with
  | text t =>
      cases k with
      | zero =>
          rw [level_zero, lastBeyond, if_pos (by omega)]
          rfl
      | succ k =>
          rw [lastBeyond, if_neg (by omega)]
          rfl
  | element tag attrs children ih =>
      cases k with
      | zero =>
          rw [level_zero, lastBeyond, if_pos (by omega)]
          rfl
      | succ k =>
          rw [lastBeyond, if_neg (by omega), level_succ]
          exact lastBeyondIn_eq_getLast? (fun c member => ih c member (by omega)) 0

end Node

/-! ## Documents -/

/-- The check of a document is the search from its root. It refuses a document exactly if a node
    lies deeper than the limit, and always at the last node, in document order, on the first level
    past the limit. -/
theorem depth_checked (d : Document) (limit : Nat) :
    (d.checkDepth limit =
      match Node.search limit [(d.root, 0)] with
      | some n => .error (.malformed (.tooDeep limit) (some n))
      | none => .ok ()) ∧
    ((∃ e, d.checkDepth limit = .error e) ↔
      ∃ path n, d.at? path = some n ∧ limit < path.length) ∧
    ∀ e, d.checkDepth limit = .error e ↔
      ∃ path n, d.at? path = some n ∧ path.length = limit + 1 ∧
        (∀ other m, d.at? other = some m → other.length = limit + 1 → other ≠ path →
          other < path) ∧
        e = .malformed (.tooDeep limit) (some n) := by
  have found : Node.search limit [(d.root, 0)] = d.root.lastBeyond limit 0 := by
    rw [Node.search_eq_findSome?, List.findSome?_singleton]
  have last : d.root.lastBeyond limit 0 = (d.root.level (limit + 1)).getLast?.map Prod.snd :=
    Node.lastBeyond_eq_getLast? (by omega) d.root
  have refused (e : Error) : d.checkDepth limit = .error e ↔
      ∃ n, d.root.lastBeyond limit 0 = some n ∧ e = .malformed (.tooDeep limit) (some n) := by
    unfold Document.checkDepth
    cases d.root.lastBeyond limit 0 <;> simp [eq_comm]
  refine ⟨by rw [found]; rfl, ?_, fun e => ?_⟩
  · constructor
    · rintro ⟨e, failed⟩
      obtain ⟨n, beyond, _⟩ := (refused e).mp failed
      obtain ⟨path, located, length, _⟩ := Node.getLast?_level.mp (last.symm.trans beyond)
      exact ⟨path, n, located, by omega⟩
    · rintro ⟨path, n, located, deep⟩
      obtain ⟨above, onLevel⟩ := Node.at?_take located (limit + 1)
      have member : (path.take (limit + 1), above) ∈ d.root.level (limit + 1) :=
        Node.mem_level.mpr ⟨onLevel, by rw [List.length_take]; omega⟩
      have some := List.getLast?_eq_some_getLast (List.ne_nil_of_mem member)
      exact ⟨_, (refused _).mpr ⟨_, last.trans (congrArg (Option.map Prod.snd) some), rfl⟩⟩
  · rw [refused, last]
    constructor
    · rintro ⟨n, isLast, rfl⟩
      obtain ⟨path, located, length, behind⟩ := Node.getLast?_level.mp isLast
      exact ⟨path, n, located, length, behind, rfl⟩
    · rintro ⟨path, n, located, length, behind, rfl⟩
      exact ⟨n, Node.getLast?_level.mpr ⟨path, located, length, behind⟩, rfl⟩

end Gemtext
