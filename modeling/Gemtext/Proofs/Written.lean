import Gemtext.Render

/-! # Laws of writing

Writing is a monoid that stops at the first error: what was written before the error stays,
and nothing behind it is written. A walk over sibling nodes is the composition of the walks
over each of them.
-/

namespace Gemtext

/-! ## Results -/

theorem map_eq_ok {α β : Type} {f : α → β} {r : Except Error α} {b : β} :
    r.map f = .ok b ↔ ∃ a, r = .ok a ∧ f a = b := by
  cases r <;> simp [Except.map]

theorem map_eq_error {α β : Type} {f : α → β} {r : Except Error α} {e : Error} :
    r.map f = .error e ↔ r = .error e := by
  cases r <;> simp [Except.map]

/-! ### Results of a list

The first failure is the failure of the list. -/

section MapM

variable {α β γ : Type}

theorem mapM_cons (f : α → Except Error β) (a : α) (rest : List α) :
    (a :: rest).mapM f = (f a).bind fun b => (rest.mapM f).map (b :: ·) := by
  rw [List.mapM_cons]
  rfl

theorem mapM_congr {f g : α → Except Error β} {as : List α}
    (each : ∀ a ∈ as, f a = g a) : as.mapM f = as.mapM g := by
  induction as with
  | nil => rfl
  | cons a rest ih =>
      obtain ⟨first, behind⟩ := List.forall_mem_cons.mp each
      rw [mapM_cons, mapM_cons, first, ih behind]

theorem map_mapM (f : α → Except Error β) (g : β → γ) (as : List α) :
    (as.mapM f).map (List.map g) = as.mapM fun a => (f a).map g := by
  induction as with
  | nil => rfl
  | cons a rest ih =>
      rw [mapM_cons, mapM_cons, ← ih]
      cases f a with
      | error e => rfl
      | ok b => cases rest.mapM f <;> rfl

theorem mapM_exists {f : α → Except Error β} {as : List α}
    (each : ∀ a ∈ as, ∃ b, f a = .ok b) : ∃ bs, as.mapM f = .ok bs := by
  induction as with
  | nil => exact ⟨[], rfl⟩
  | cons a rest ih =>
      obtain ⟨⟨b, first⟩, others⟩ := List.forall_mem_cons.mp each
      obtain ⟨bs, behind⟩ := ih others
      exact ⟨b :: bs, by rw [mapM_cons, first, behind]; rfl⟩

theorem mem_of_mapM {f : α → Except Error β} {as : List α} {bs : List β}
    (ok : as.mapM f = .ok bs) {a : α} (member : a ∈ as) : ∃ b ∈ bs, f a = .ok b := by
  induction as generalizing bs with
  | nil => cases member
  | cons a' rest ih =>
      rw [mapM_cons] at ok
      cases first : f a' with
      | error e =>
          rw [first] at ok
          cases ok
      | ok b =>
          rw [first] at ok
          obtain ⟨more, behind, rfl⟩ := map_eq_ok.mp ok
          rcases List.mem_cons.mp member with rfl | inside
          · exact ⟨b, List.mem_cons_self, first⟩
          · obtain ⟨b', found, same⟩ := ih behind inside
            exact ⟨b', List.mem_cons_of_mem b found, same⟩

end MapM

/-! ## Writing -/

namespace Written

theorem andThen_assoc (a b c : Written) :
    (a.andThen b).andThen c = a.andThen (b.andThen c) := by
  cases a with
  | mk s error =>
      cases error with
      | some e => rfl
      | none =>
          cases b with
          | mk t error => cases error <;> simp [andThen]

/-- The second text is written behind the first one unless the first one failed. -/
theorem andThen_text (a b : Written) :
    (a.andThen b).text = a.text ++ if a.error = none then b.text else [] := by
  cases a with
  | mk s error => cases error <;> simp [andThen]

theorem andThen_error (a b : Written) : (a.andThen b).error = a.error.or b.error := by
  cases a with
  | mk s error => cases error <;> rfl

theorem andThen_error_eq_none {a b : Written} :
    (a.andThen b).error = none ↔ a.error = none ∧ b.error = none := by
  rw [andThen_error, Option.or_eq_none_iff]

theorem andThen_nothing (a : Written) : a.andThen nothing = a := by
  cases a with
  | mk t error => cases error <;> simp [andThen, nothing]

theorem nothing_andThen (a : Written) : nothing.andThen a = a := rfl

theorem text_prefix_andThen (a b : Written) : a.text <+: (a.andThen b).text := by
  rw [andThen_text]
  exact List.prefix_append _ _

theorem andThen_text_of_ok {a : Written} (h : a.error = none) (b : Written) :
    (a.andThen b).text = a.text ++ b.text := by
  rw [andThen_text, if_pos h]

end Written

namespace Walk

theorem writeAll_append (w : Walk) (before behind : List Node) :
    w.writeAll (before ++ behind) = (w.writeAll before).andThen (w.writeAll behind) := by
  induction before with
  | nil => rfl
  | cons n rest ih => simp only [List.cons_append, writeAll, ih, Written.andThen_assoc]

end Walk

/-! ## Properties of what is written -/

namespace Written

/-- A property of writing nothing that stays when one text is written behind another. What is
    written child by child has it as soon as each child has. -/
structure Closed (P : Written → Prop) : Prop where
  nothing : P nothing
  andThen : ∀ {a b}, P a → P b → P (a.andThen b)

namespace Closed

variable {P : Written → Prop} (closed : Closed P)

include closed

theorem writeAll {w : Walk} {children : List Node} (each : ∀ c ∈ children, P (w.write c)) :
    P (w.writeAll children) := by
  induction children with
  | nil => exact closed.nothing
  | cons c rest ih =>
      obtain ⟨first, behind⟩ := List.forall_mem_cons.mp each
      exact closed.andThen first (ih behind)

theorem quoteChunks {children : List Node}
    (each : ∀ c ∈ children, P (.ofExcept (quoteChunk c))) : P (quoteChunks children) := by
  induction children with
  | nil => exact closed.nothing
  | cons c rest ih =>
      obtain ⟨first, behind⟩ := List.forall_mem_cons.mp each
      exact closed.andThen first (ih behind)

theorem innerLists {level : Nat} {children : List Node}
    (each : ∀ c ∈ children, P (innerList level c)) : P (innerLists level children) := by
  induction children with
  | nil => exact closed.nothing
  | cons c rest ih =>
      obtain ⟨first, behind⟩ := List.forall_mem_cons.mp each
      exact closed.andThen first (ih behind)

theorem listItems {ordered : Bool} {level : Nat} {items : List Node}
    (each : ∀ c ∈ items, ∀ number, P (listItem ordered level number c)) (number : Nat) :
    P (listItems ordered level number items) := by
  induction items generalizing number with
  | nil => exact closed.nothing
  | cons c rest ih =>
      obtain ⟨first, behind⟩ := List.forall_mem_cons.mp each
      exact closed.andThen (first number) (ih behind (number + 1))

end Closed

end Written

/-! ## Errors of some kind -/

/-- A result that fails with errors of some kind only. -/
def FailsOnly {α : Type} (P : Error → Prop) (r : Except Error α) : Prop := ∀ e, r = .error e → P e

/-- Writing that stops at errors of some kind only. -/
def Written.FailsOnly (P : Error → Prop) (w : Written) : Prop := ∀ e, w.error = some e → P e

section FailsOnly

variable {P : Error → Prop} {α β : Type}

theorem FailsOnly.ok (a : α) : FailsOnly P (.ok a) := fun _ failed => nomatch failed

theorem FailsOnly.error {e : Error} (h : P e) : FailsOnly P (.error e : Except Error α) := by
  rintro _ ⟨rfl⟩
  exact h

theorem FailsOnly.map {r : Except Error α} (h : FailsOnly P r) (f : α → β) : FailsOnly P (r.map f) :=
  fun e failed => h e (map_eq_error.mp failed)

theorem FailsOnly.passed {r : Except Error α} (h : FailsOnly P r) {e : Error}
    (failed : r = .error e) : FailsOnly P (.error e : Except Error β) :=
  .error (h e failed)

namespace Written

theorem FailsOnly.written (t : List Char) : FailsOnly P ⟨t, none⟩ := fun _ failed => nomatch failed

theorem FailsOnly.fail {e : Error} (h : P e) : (fail e).FailsOnly P := by
  rintro _ ⟨rfl⟩
  exact h

theorem FailsOnly.ofExcept {r : Except Error (List Char)} (h : Gemtext.FailsOnly P r) :
    (ofExcept r).FailsOnly P := by
  cases r with
  | error e => exact .fail (h e rfl)
  | ok t => exact .written t

theorem FailsOnly.andThen {a b : Written} (ha : a.FailsOnly P) (hb : b.FailsOnly P) :
    (a.andThen b).FailsOnly P := by
  intro e failed
  rw [andThen_error, Option.or_eq_some_iff] at failed
  rcases failed with first | ⟨_, second⟩
  · exact ha e first
  · exact hb e second

theorem closed_failsOnly (P : Error → Prop) : Closed (FailsOnly P) := ⟨.written [], .andThen⟩

end Written

theorem composeParts_failsOnly {style : Style} {inText : Bool} {children : List Node}
    (ih : ∀ c ∈ children, FailsOnly P (compose style inText c)) :
    FailsOnly P (composeParts style inText children) := by
  induction children with
  | nil => exact .ok []
  | cons c rest tail =>
      have first := ih c List.mem_cons_self
      have behind := tail fun m member => ih m (List.mem_cons_of_mem c member)
      rw [composeParts]
      split
      · exact behind
      · split
        · next e failed => exact first.passed failed
        · split
          · next e failed => exact behind.passed failed
          · exact .ok _

theorem linkLines_failsOnly {d : Document} {links : List Node}
    (each : ∀ link ∈ links, FailsOnly P (linkLine d link)) : FailsOnly P (linkLines d links) := by
  induction links with
  | nil => exact .ok []
  | cons link rest ih =>
      obtain ⟨first, behind⟩ := List.forall_mem_cons.mp each
      rw [linkLines]
      split
      · next e failed => exact first.passed failed
      · exact (ih behind).map _

theorem rowCells_failsOnly {entries : List Node}
    (each : ∀ e ∈ entries, FailsOnly P (plainLine false e)) : FailsOnly P (rowCells entries) := by
  induction entries with
  | nil => exact .ok []
  | cons entry rest ih =>
      obtain ⟨first, behind⟩ := List.forall_mem_cons.mp each
      rw [rowCells]
      split
      · next e failed => exact first.passed failed
      · exact (ih behind).map _

theorem allCells_failsOnly {rows : List (Bool × List Node)}
    (each : ∀ row ∈ rows, FailsOnly P (rowCells row.2)) : FailsOnly P (allCells rows) := by
  induction rows with
  | nil => exact .ok []
  | cons row rest ih =>
      obtain ⟨first, behind⟩ := List.forall_mem_cons.mp each
      rw [allCells]
      split
      · next e failed => exact first.passed failed
      · exact (ih behind).map _

end FailsOnly

/-! ## Rendering -/

/-- A rendering is the finished text of a walk over the document, if the document is not too
    deep and the walk does not fail. -/
theorem render_eq_ok {d : Document} {settings : Settings} {metadata : Option Metadata}
    {t : List Char} :
    render d settings metadata = .ok t ↔ d.checkDepth settings.maxNestingDepth = .ok () ∧
      (Walk.write ⟨d, metadata, settings.maxHeadingLevel⟩ d.root).error = none ∧
      Text.endOnce (Walk.write ⟨d, metadata, settings.maxHeadingLevel⟩ d.root).text = t := by
  unfold render
  cases d.checkDepth settings.maxNestingDepth with
  | error e => simp
  | ok u =>
      simp only [Page.walk, Page.begin, Page.text, List.nil_append, true_and]
      cases (Walk.write ⟨d, metadata, settings.maxHeadingLevel⟩ d.root).error <;> simp

/-- A rendering fails if the document is too deep, or where the walk over it fails. -/
theorem render_eq_error {d : Document} {settings : Settings} {metadata : Option Metadata}
    {e : Error} :
    render d settings metadata = .error e ↔ d.checkDepth settings.maxNestingDepth = .error e ∨
      d.checkDepth settings.maxNestingDepth = .ok () ∧
        (Walk.write ⟨d, metadata, settings.maxHeadingLevel⟩ d.root).error = some e := by
  unfold render
  cases d.checkDepth settings.maxNestingDepth with
  | error e => simp
  | ok u =>
      simp only [Page.walk, Page.begin, reduceCtorEq, false_or, true_and]
      cases (Walk.write ⟨d, metadata, settings.maxHeadingLevel⟩ d.root).error <;> simp

end Gemtext
