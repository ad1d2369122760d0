import Gemtext.Compose
import Gemtext.Document.Registry

/-! # Links

The references, images and footnote references of a subtree, in document order. A footnote
reference is followed by the links of the definition it points to, and so on, except that a
definition is not entered again while its own links are being listed. So the list is finite
however definitions refer to one another.

Listing fails at the first footnote reference that is reached and has no definition.
-/

namespace Gemtext

/-- The references, images and footnote references of a tree, in document order. -/
def Node.links (n : Node) : List Node := n.filter (·.tagIs Tag.isLink)

namespace Document

/-- The definition that a footnote reference points to. -/
def resolve (d : Document) (reference : Node) : Except Error Definition :=
  match reference.attrs.refid.bind d.definition? with
  | some entry => .ok entry
  | none => .error (.malformed (.undefinedFootnote reference.attrs.noteid) (some reference))

/-- How many definitions may still be entered when these, known by their ids, are not. -/
def unfollowed (d : Document) (followed : List (List (List Char))) : Nat :=
  d.definitions.countP fun entry => !followed.contains entry.ids

theorem resolve_mem {d : Document} {n : Node} {entry : Definition}
    (h : d.resolve n = .ok entry) : entry ∈ d.definitions := by
  unfold resolve at h
  split at h
  · next e he =>
    obtain ⟨id, _, hid⟩ := Option.bind_eq_some_iff.1 he
    exact Except.ok.inj h ▸ List.mem_of_find?_eq_some hid
  · cases h

/-- Two ids that are held by definitions with equal ids are held by one definition. -/
theorem definition?_unique {d : Document} {i j : List Char} {a b : Definition}
    (ha : d.definition? i = some a) (hb : d.definition? j = some b) (same : a.ids = b.ids) :
    a = b := by
  have holdsA : a.ids.contains i = true := by simpa using List.find?_some ha
  have holdsB : b.ids.contains j = true := by simpa using List.find?_some hb
  unfold definition? at ha hb
  generalize d.definitions = definitions at ha hb
  induction definitions with
  | nil => cases ha
  | cons entry rest ih =>
      rw [List.find?_cons] at ha hb
      cases atI : entry.ids.contains i <;> cases atJ : entry.ids.contains j <;>
        simp only [atI, atJ, Option.some.injEq] at ha hb
      · exact ih ha hb
      · rw [hb, ← same, holdsA] at atI
        cases atI
      · rw [ha, same, holdsB] at atJ
        cases atJ
      · exact ha.symm.trans hb

theorem resolve_eq_ok {d : Document} {reference : Node} {entry : Definition} :
    d.resolve reference = .ok entry ↔
      ∃ id, reference.attrs.refid = some id ∧ d.definition? id = some entry := by
  rw [← Option.bind_eq_some_iff, resolve]
  cases reference.attrs.refid.bind d.definition? with
  | none => simp
  | some found => simp

theorem resolve_eq_error {d : Document} {reference : Node} {e : Error}
    (h : d.resolve reference = .error e) :
    e = .malformed (.undefinedFootnote reference.attrs.noteid) (some reference) := by
  unfold resolve at h
  split at h
  · cases h
  · exact (Except.error.inj h).symm

/-- The ids of a definition tell which one it is. -/
theorem resolve_unique {d : Document} {r s : Node} {a b : Definition}
    (ha : d.resolve r = .ok a) (hb : d.resolve s = .ok b) (same : a.ids = b.ids) : a = b := by
  obtain ⟨i, _, hi⟩ := resolve_eq_ok.mp ha
  obtain ⟨j, _, hj⟩ := resolve_eq_ok.mp hb
  exact definition?_unique hi hj same

/-- A predicate that holds of fewer members counts fewer. -/
theorem countP_lt {p q : Definition → Bool} {l : List Definition} {a : Definition}
    (hpq : ∀ x, p x = true → q x = true) (ha : a ∈ l) (hp : p a = false) (hq : q a = true) :
    l.countP p < l.countP q := by
  induction l with
  | nil => cases ha
  | cons e es ih =>
    have le : es.countP p ≤ es.countP q := List.countP_mono_left fun x _ => hpq x
    rw [List.countP_cons, List.countP_cons]
    rcases List.mem_cons.1 ha with rfl | ha
    · simp only [hp, hq, Bool.false_eq_true, if_false, if_true]
      omega
    · have lt := ih ha
      by_cases h : p e = true
      · simp only [h, hpq e h, if_true]
        omega
      · rw [if_neg h]
        omega

/-- Entering a definition leaves one definition less to be entered. -/
theorem unfollowed_lt {d : Document} {followed : List (List (List Char))} {entry : Definition}
    (hm : entry ∈ d.definitions) (hn : followed.contains entry.ids = false) :
    d.unfollowed (entry.ids :: followed) < d.unfollowed followed := by
  refine countP_lt (fun x hx => ?_) hm (by simp) (by simpa using hn)
  simp only [List.contains_cons, Bool.not_or, Bool.and_eq_true] at hx
  exact hx.2

/-- Lists these links, each footnote reference with the links behind it. The definitions in
`followed` are being listed already. -/
def follow (d : Document) (followed : List (List (List Char))) :
    List Node → Except Error (List Node)
  | [] => .ok []
  | link :: rest =>
    if link.hasTag .footnoteReference then
      match _h : d.resolve link with
      | .error e => .error e
      | .ok entry =>
        if _hf : followed.contains entry.ids then
          (d.follow followed rest).map (link :: ·)
        else
          match d.follow (entry.ids :: followed) entry.node.links with
          | .error e => .error e
          | .ok inside => (d.follow followed rest).map fun more => link :: (inside ++ more)
    else (d.follow followed rest).map (link :: ·)
termination_by links => (d.unfollowed followed, links.length)
decreasing_by
  · exact Prod.Lex.right _ (Nat.lt_succ_self _)
  · exact Prod.Lex.left _ _ (unfollowed_lt (resolve_mem _h) (by simpa using _hf))
  · exact Prod.Lex.right _ (Nat.lt_succ_self _)
  · exact Prod.Lex.right _ (Nat.lt_succ_self _)

section Follow

variable {d : Document} {followed : List (List (List Char))} {link : Node} {entry : Definition}

@[simp] theorem follow_nil : d.follow followed [] = .ok [] := by rw [follow]

theorem follow_cons_plain (plain : link.hasTag .footnoteReference = false) (rest : List Node) :
    d.follow followed (link :: rest) = (d.follow followed rest).map (link :: ·) := by
  rw [follow]
  simp only [plain, Bool.false_eq_true, if_false]

theorem follow_cons_dangling {e : Error} (isNote : link.hasTag .footnoteReference = true)
    (failed : d.resolve link = .error e) (rest : List Node) :
    d.follow followed (link :: rest) = .error e := by
  rw [follow, if_pos isNote]
  split
  · next e' again => exact congrArg _ (Except.error.inj (again.symm.trans failed))
  · next entry resolved => cases resolved.symm.trans failed

theorem follow_cons_followed (isNote : link.hasTag .footnoteReference = true)
    (resolved : d.resolve link = .ok entry) (old : entry.ids ∈ followed) (rest : List Node) :
    d.follow followed (link :: rest) = (d.follow followed rest).map (link :: ·) := by
  rw [follow, if_pos isNote]
  split
  · next e failed => cases resolved.symm.trans failed
  · next found again =>
    obtain rfl := Except.ok.inj (resolved.symm.trans again)
    rw [dif_pos (by simpa using old)]

theorem follow_cons_enter (isNote : link.hasTag .footnoteReference = true)
    (resolved : d.resolve link = .ok entry) (fresh : entry.ids ∉ followed) (rest : List Node) :
    d.follow followed (link :: rest) =
      (d.follow (entry.ids :: followed) entry.node.links).bind fun inside =>
        (d.follow followed rest).map fun more => link :: (inside ++ more) := by
  rw [follow, if_pos isNote]
  split
  · next e failed => cases resolved.symm.trans failed
  · next found again =>
    obtain rfl := Except.ok.inj (resolved.symm.trans again)
    rw [dif_neg (by simpa using fresh)]
    cases d.follow (entry.ids :: followed) entry.node.links <;> rfl

end Follow

/-- The links of a subtree and of the footnotes it refers to. -/
def links (d : Document) (n : Node) : Except Error (List Node) := d.follow [] n.links

end Document

end Gemtext
