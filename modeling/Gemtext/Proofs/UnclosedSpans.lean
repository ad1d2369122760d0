import Gemtext.Proofs.DeniedSpans

/-! # Unclosed spans

Among siblings, denied spans are dropped up to the first denied tag that is never closed. From
there on all siblings stay as they are. So where such a tag stands, a denied span behind it is left.
-/

namespace Gemtext.Markdown

variable {name : List Char} {ns front rest behind : List Tree} {n unclosed : Tree}

/-- The siblings behind a closing tag, and those in front of it, of which none is one. -/
theorem behindClosing?_eq_some :
    behindClosing? name ns = some behind ↔ ∃ inside closing, ns = inside ++ closing :: behind ∧
      (∀ n ∈ inside, n.closes name = false) ∧ closing.closes name = true := by
  constructor
  · intro closed
    induction ns with
    | nil => cases closed
    | cons n rest ih =>
        rw [behindClosing?] at closed
        split at closed
        · next closes => exact ⟨[], n, by rw [Option.some.inj closed]; rfl,
            List.forall_mem_nil _, closes⟩
        · next stays =>
            obtain ⟨inside, closing, rfl, others, closes⟩ := ih closed
            exact ⟨n :: inside, closing, rfl,
              List.forall_mem_cons.mpr ⟨Bool.not_eq_true _ ▸ stays, others⟩, closes⟩
  · rintro ⟨inside, closing, rfl, stays, closes⟩
    exact behindClosing?_span stays closes behind

theorem behindClosing?_eq_none :
    behindClosing? name ns = none ↔ ∀ n ∈ ns, n.closes name = false := by
  induction ns with
  | nil => exact iff_of_true rfl (List.forall_mem_nil _)
  | cons n rest ih =>
      rw [behindClosing?, List.forall_mem_cons]
      cases n.closes name with
      | true => simp
      | false => simpa using ih

/-- Siblings that begin with a denied tag which none of them closes. -/
def BeginUnclosed (ns : List Tree) : Prop :=
  ∃ n rest name, ns = n :: rest ∧ n.opensDenied? = some name ∧ ∀ m ∈ rest, m.closes name = false

/-- Behind siblings among which nothing is left open, a denied tag that is never closed keeps what
    is behind it. -/
theorem dropDeniedSpans_keeps (none : NoneOpen front) (opens : n.opensDenied? = some name)
    (stays : ∀ m ∈ rest, m.closes name = false) :
    dropDeniedSpans (front ++ n :: rest) = dropDeniedSpans front ++ n :: rest := by
  rw [dropDeniedSpans_append none,
    dropDeniedSpans_unclosed opens (behindClosing?_eq_none.mpr stays)]

/-- Siblings fall into a part of which only spans are dropped, with nothing left open, and a part
    that stays as it is. -/
theorem dropDeniedSpans_split (ns : List Tree) : ∃ front tail, ns = front ++ tail ∧
    NoneOpen front ∧ dropDeniedSpans ns = dropDeniedSpans front ++ tail ∧
      (tail = [] ∨ BeginUnclosed tail) := by
  have nothing : NoneOpen [] := by
    rw [NoneOpen, dropDeniedSpans]
    exact List.forall_mem_nil _
  fun_induction dropDeniedSpans ns with
  | case1 => exact ⟨[], [], rfl, nothing, by rw [dropDeniedSpans]; rfl, .inl rfl⟩
  | case2 n rest plain ih =>
      obtain ⟨front, tail, rfl, none, same, ends⟩ := ih
      refine ⟨n :: front, tail, rfl, ?_, ?_, ends⟩
      · rw [NoneOpen, dropDeniedSpans_plain plain]
        exact List.forall_mem_cons.mpr ⟨plain, none⟩
      · rw [dropDeniedSpans_plain plain, same]
        rfl
  | case3 n rest name opens behind closed ih =>
      obtain ⟨inside, closing, rfl, stays, closes⟩ := behindClosing?_eq_some.mp closed
      obtain ⟨front, tail, rfl, none, same, ends⟩ := ih
      have dropped : dropDeniedSpans (n :: (inside ++ closing :: front)) = dropDeniedSpans front :=
        dropDeniedSpans_closed opens (behindClosing?_span stays closes front)
      refine ⟨n :: (inside ++ closing :: front), tail, by simp, ?_, by rw [dropped, same], ends⟩
      rwa [NoneOpen, dropped]
  | case4 n rest name opens unclosed =>
      refine ⟨[], n :: rest, rfl, nothing, by rw [dropDeniedSpans]; rfl, .inr ?_⟩
      exact ⟨n, rest, name, rfl, opens, behindClosing?_eq_none.mp unclosed⟩

/-- Among siblings stands a tag that opens a denied element, and behind it one that closes it. -/
def HoldSpan (ns : List Tree) : Prop :=
  ∃ before opening inside closing behind name, ns = before ++ opening :: (inside ++ closing :: behind) ∧
    opening.opensDenied? = some name ∧ closing.closes name = true

theorem HoldSpan.append_left (h : HoldSpan ns) (front : List Tree) : HoldSpan (front ++ ns) := by
  obtain ⟨before, opening, inside, closing, behind, name, rfl, opens, closes⟩ := h
  exact ⟨front ++ before, opening, inside, closing, behind, name, by simp, opens, closes⟩

/-- A span does not begin among siblings of which none opens a denied element. -/
theorem HoldSpan.of_append (h : HoldSpan (front ++ ns)) (none : ∀ n ∈ front, n.opensDenied? = none) :
    HoldSpan ns := by
  obtain ⟨before, opening, inside, closing, behind, name, same, opens, closes⟩ := h
  rcases List.append_eq_append_iff.mp same with ⟨between, rfl, tail⟩ | ⟨between, begins, tail⟩
  · exact ⟨between, opening, inside, closing, behind, name, tail, opens, closes⟩
  · cases between with
    | nil => exact ⟨[], opening, inside, closing, behind, name, tail.symm, opens, closes⟩
    | cons m between =>
        obtain ⟨rfl, _⟩ := List.cons.inj tail
        rw [none opening (begins ▸ by simp)] at opens
        cases opens

/-- Behind a tag that is never closed stands the whole of a span. -/
theorem HoldSpan.of_unclosed (h : HoldSpan (n :: rest)) (opens : n.opensDenied? = some name)
    (stays : ∀ m ∈ rest, m.closes name = false) : HoldSpan rest := by
  obtain ⟨before, opening, inside, closing, behind, own, same, opensOwn, closes⟩ := h
  cases before with
  | nil =>
      obtain ⟨rfl, rfl⟩ := List.cons.inj same
      obtain rfl := Option.some.inj (opens.symm.trans opensOwn)
      rw [stays closing (by simp)] at closes
      cases closes
  | cons m before =>
      obtain ⟨_, rfl⟩ := List.cons.inj same
      exact ⟨before, opening, inside, closing, behind, own, rfl, opensOwn, closes⟩

/-- A denied span is left among siblings exactly if it stands behind the first denied tag that is
    never closed. -/
theorem span_left_iff (ns : List Tree) : HoldSpan (dropDeniedSpans ns) ↔
    ∃ front unclosed rest name, ns = front ++ unclosed :: rest ∧ NoneOpen front ∧
      unclosed.opensDenied? = some name ∧ (∀ n ∈ rest, n.closes name = false) ∧ HoldSpan rest := by
  constructor
  · intro left
    obtain ⟨front, tail, rfl, none, same, ends⟩ := dropDeniedSpans_split ns
    rw [same] at left
    have holds := left.of_append none
    rcases ends with rfl | ⟨unclosed, rest, name, rfl, opens, stays⟩
    · obtain ⟨before, _, _, _, _, _, empty, _⟩ := holds
      cases before <;> cases empty
    · exact ⟨front, unclosed, rest, name, rfl, none, opens, stays, holds.of_unclosed opens stays⟩
  · rintro ⟨front, unclosed, rest, name, rfl, none, opens, stays, holds⟩
    rw [dropDeniedSpans_keeps none opens stays]
    exact (holds.append_left [unclosed]).append_left _

/-- A script behind a form that is never closed is kept with its tags. -/
theorem span_behind_unclosed_is_left :
    let tag (t : String) : Tree := .node .htmlTag t.toList []
    let siblings : List Tree :=
      [tag "<form>", tag "<script>", .node .text "x".toList [], tag "</script>"]
    dropDeniedSpans siblings = siblings ∧ HoldSpan (dropDeniedSpans siblings) := by
  intro tag siblings
  have opens : (tag "<form>").opensDenied? = some "form".toList := by decide
  have kept : dropDeniedSpans siblings = siblings :=
    dropDeniedSpans_unclosed opens (behindClosing?_eq_none.mpr (by decide))
  refine ⟨kept, kept.symm ▸ ?_⟩
  exact ⟨[tag "<form>"], tag "<script>", [.node .text "x".toList []], tag "</script>", [],
    "script".toList, rfl, by decide, by decide⟩

end Gemtext.Markdown
