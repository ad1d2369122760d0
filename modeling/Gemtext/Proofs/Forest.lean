import Gemtext.Proofs.TagRow

/-! # Written forests

Elements and texts that stand in one another are written as a row of tags and texts. Where a denied
element holds another one of the same name, it ends at the closing tag of that one, and the rest of
its content is taken for content of the elements around it. So the texts outside of denied elements
are kept whole and in order, and they are all that is kept if no denied element holds another one of
the same name.
-/

namespace Gemtext.Html

/-- Elements and texts in a row, with the elements' content in them. -/
inductive Forest where
  | nil
  | leaf (text : Leaf) (behind : Forest)
  | element (name : ElementName) (inside behind : Forest)

namespace Forest

def tokens : Forest → List Token
  | .nil => []
  | .leaf l behind => .text l :: behind.tokens
  | .element n inside behind => .opening n :: (inside.tokens ++ .closing n :: behind.tokens)

/-- The leaves that no denied element holds. -/
def visible : Forest → List Leaf
  | .nil => []
  | .leaf l behind => l :: behind.visible
  | .element n inside behind => (if n.denied then [] else inside.visible) ++ behind.visible

/-- The names of all elements. -/
def names : Forest → List ElementName
  | .nil => []
  | .leaf _ behind => behind.names
  | .element n inside behind => n :: (inside.names ++ behind.names)

/-- No outermost denied element holds one of its own name. -/
def Apart : Forest → Prop
  | .nil => True
  | .leaf _ behind => behind.Apart
  | .element n inside behind => (if n.denied then n ∉ inside.names else inside.Apart) ∧ behind.Apart

instance decidableApart : (f : Forest) → Decidable f.Apart
  | .nil => inferInstanceAs (Decidable True)
  | .leaf _ behind => behind.decidableApart
  | .element n inside behind =>
      have := inside.decidableApart
      have := behind.decidableApart
      inferInstanceAs (Decidable
        ((if n.denied then n ∉ inside.names else inside.Apart) ∧ behind.Apart))

theorem allClosed_tokens_append {ts : List Token} (closed : AllClosed ts) (f : Forest) :
    AllClosed (f.tokens ++ ts) := by
  induction f generalizing ts with
  | nil => exact closed
  | leaf l behind ih => exact ih closed
  | element n inside behind ihInside ihBehind =>
      have last : AllClosed (.closing n :: (behind.tokens ++ ts)) := ihBehind closed
      rw [tokens, List.cons_append, List.append_assoc]
      exact ⟨by simp, ihInside last⟩

theorem closing_mem_tokens {f : Forest} {n : ElementName} :
    .closing n ∈ f.tokens ↔ n ∈ f.names := by
  induction f with
  | nil => simp [tokens, names]
  | leaf l behind ih => simpa [tokens, names] using ih
  | element m inside behind ihInside ihBehind =>
      simp [tokens, names, ihInside, ihBehind, or_left_comm]

/-- Behind a forest a pair is open only if it was open in front. -/
theorem foldl_pairAfter_tokens (f : Forest) : f.tokens.foldl pairAfter none = none ∧
    ∀ m, f.tokens.foldl pairAfter (some m) = none ∨ f.tokens.foldl pairAfter (some m) = some m := by
  induction f with
  | nil => exact ⟨rfl, fun m => .inr rfl⟩
  | leaf l behind ih => exact ih
  | element n inside behind ihInside ihBehind =>
      have closes {pair : Option ElementName} (isOwn : pair = none ∨ pair = some n) :
          pairAfter pair (.closing n) = none := by
        rcases isOwn with rfl | rfl
        · rfl
        · exact if_pos rfl
      simp only [tokens, List.foldl_cons, List.foldl_append]
      constructor
      · rw [closes]
        · exact ihBehind.1
        · rw [pairAfter]
          split
          · exact ihInside.2 n
          · exact .inl ihInside.1
      · intro m
        rw [show pairAfter (some m) (.opening n) = some m from rfl]
        rcases ihInside.2 m with closed | stays
        · rw [closed]
          exact .inl ihBehind.1
        · rw [stays, pairAfter]
          split
          · exact .inl ihBehind.1
          · exact ihBehind.2 m

/-- What is left of a forest that begins with an element is what is left inside the element and what
    is left behind it: behind the element no pair is open. -/
theorem leavesIn_element (n : ElementName) (inside behind : Forest) :
    leavesIn (outsidePairs none (element n inside behind).tokens) =
      leavesIn (outsidePairs (pairAfter none (.opening n)) inside.tokens) ++
        leavesIn (outsidePairs none behind.tokens) := by
  have tag {pair : Option ElementName} {a : Token} (ts : List Token) (empty : leavesIn [a] = []) :
      leavesIn (outsidePairs pair (a :: ts)) = leavesIn (outsidePairs (pairAfter pair a) ts) := by
    rw [outsidePairs]
    split
    · rw [← List.singleton_append, leavesIn, List.filterMap_append]
      exact congrArg (· ++ _) empty
    · rfl
  have whole := (foldl_pairAfter_tokens (element n inside .nil)).1
  rw [tokens, tag _ rfl, outsidePairs_append, leavesIn, List.filterMap_append]
  refine congrArg _ (Eq.trans (tag _ rfl) ?_)
  rw [tokens, tokens, List.foldl_cons, List.foldl_append, List.foldl_cons, List.foldl_nil] at whole
  rw [whole]

/-- The leaves outside of denied elements are never lost. -/
theorem visible_sublist (f : Forest) :
    f.visible.Sublist (leavesIn (outsidePairs none f.tokens)) := by
  induction f with
  | nil => exact List.Sublist.refl []
  | leaf l behind ih => exact ih.cons_cons l
  | element n inside behind ihInside ihBehind =>
      rw [leavesIn_element, visible, pairAfter]
      refine List.Sublist.append ?_ ihBehind
      split
      · exact List.nil_sublist _
      · exact ihInside

/-- Where no denied element holds one of its own name, nothing else is left. -/
theorem leavesIn_of_apart {f : Forest} (apart : f.Apart) :
    leavesIn (outsidePairs none f.tokens) = f.visible := by
  induction f with
  | nil => rfl
  | leaf l behind ih => exact congrArg (l :: ·) (ih apart)
  | element n inside behind ihInside ihBehind =>
      obtain ⟨own, others⟩ := apart
      rw [leavesIn_element, visible, ihBehind others, pairAfter]
      split
      · next denied =>
          rw [if_pos denied] at own
          have unclosed := outsidePairs_unclosed fun member => own (closing_mem_tokens.mp member)
          rw [unclosed.2]
          rfl
      · next kept =>
          rw [if_neg kept] at own
          rw [ihInside own]

end Forest

/-- The plain text of a written forest is the text of the leaves outside of its denied pairs. Those
    are all leaves that no denied element holds, in order, and no others if no denied element holds
    one of its own name. -/
theorem plainText_forest (lineBreak : List Char) (f : Forest) :
    let shown := leavesIn (outsidePairs none f.tokens)
    plainText lineBreak (written f.tokens) = .ok (textOf shown) ∧ f.visible.Sublist shown ∧
      (f.Apart → shown = f.visible) := by
  intro shown
  have nothing : AllClosed [] := trivial
  have closed : AllClosed f.tokens := by simpa using f.allClosed_tokens_append nothing
  exact ⟨plainText_written closed lineBreak, f.visible_sublist, Forest.leavesIn_of_apart⟩

/-- A small letter. -/
def Leaf.letter (c : Char) (small : c.isLower = true) : Leaf where
  text := [c]
  plain := by
    intro d member
    obtain rfl := List.mem_singleton.mp member
    refine ⟨?_, ?_, ?_, ?_, ?_⟩ <;> rintro rfl <;> exact absurd small (by decide)
  shows := by simp [isWhite_of_isLower small]

/-- A script in a form in a paragraph. -/
theorem plainText_forest_script :
    let script : Forest := .element ⟨"script", by decide⟩ (.leaf (.letter 'c' rfl) .nil) .nil
    let form : Forest := .element ⟨"form", by decide⟩ (.leaf (.letter 'b' rfl) script)
      (.leaf (.letter 'd' rfl) .nil)
    let f : Forest := .element ⟨"p", by decide⟩ (.leaf (.letter 'a' rfl) form) .nil
    written f.tokens = "<p>a<form>b<script>c</script></form>d</p>".toList ∧ f.Apart ∧
      plainText ['\n'] (written f.tokens) = .ok "ad".toList := by
  intro script form f
  have apart : f.Apart := by decide
  obtain ⟨text, _, whole⟩ := plainText_forest ['\n'] f
  refine ⟨by decide, apart, ?_⟩
  rw [text, whole apart]
  rfl

/-- A form in a form ends the outer one with its closing tag. -/
theorem plainText_form_in_form :
    let inner : Forest := .element ⟨"form", by decide⟩ (.leaf (.letter 'b' rfl) .nil)
      (.leaf (.letter 'c' rfl) .nil)
    let f : Forest := .element ⟨"form", by decide⟩ (.leaf (.letter 'a' rfl) inner) .nil
    written f.tokens = "<form>a<form>b</form>c</form>".toList ∧ textOf f.visible = [] ∧
      plainText ['\n'] (written f.tokens) = .ok ['c'] := by
  decide +kernel

end Gemtext.Html
