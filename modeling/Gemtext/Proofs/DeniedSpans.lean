import Mathlib.Data.List.Forall2
import Gemtext.Convert
import Gemtext.Proofs.Descriptions

/-! # Denied spans

What stands in a denied span of raw HTML among siblings has no influence on a rendering: the span
is dropped before anything is built. Two things have to hold for that. No denied element may be
open in front of the span, since an opening tag that is never closed keeps everything behind it.
And of an image around the span something besides the span must be built, since an image that has
no children is shown by its description, which is its content as written.
-/

namespace Gemtext

namespace Markdown

/-- No denied element is open behind these siblings. -/
def NoneOpen (ns : List Tree) : Prop := ∀ n ∈ dropDeniedSpans ns, n.opensDenied? = none

variable {name : List Char} {opening closing : Tree} {before inside behind ns ms : List Tree}

/-! ## Dropping spans -/

theorem dropDeniedSpans_plain {n : Tree} (plain : n.opensDenied? = none) (rest : List Tree) :
    dropDeniedSpans (n :: rest) = n :: dropDeniedSpans rest := by
  rw [dropDeniedSpans, plain]

theorem dropDeniedSpans_closed {n : Tree} {rest : List Tree} (opens : n.opensDenied? = some name)
    (closed : behindClosing? name rest = some behind) :
    dropDeniedSpans (n :: rest) = dropDeniedSpans behind := by
  rw [dropDeniedSpans, opens]
  dsimp only
  split
  · next found again => rw [Option.some.inj (again.symm.trans closed)]
  · next unclosed => cases unclosed.symm.trans closed

theorem dropDeniedSpans_unclosed {n : Tree} {rest : List Tree} (opens : n.opensDenied? = some name)
    (unclosed : behindClosing? name rest = none) : dropDeniedSpans (n :: rest) = n :: rest := by
  rw [dropDeniedSpans, opens]
  dsimp only
  split
  · next found closed => cases unclosed.symm.trans closed
  · rfl

theorem behindClosing?_append (found : behindClosing? name before = some inside)
    (behind : List Tree) : behindClosing? name (before ++ behind) = some (inside ++ behind) := by
  induction before with
  | nil => cases found
  | cons n rest ih =>
      rw [behindClosing?] at found
      rw [List.cons_append, behindClosing?]
      split
      · next closes =>
          rw [if_pos closes] at found
          rw [Option.some.inj found]
      · next stays =>
          rw [if_neg stays] at found
          exact ih found

theorem behindClosing?_span (stays : ∀ n ∈ inside, n.closes name = false)
    (closes : closing.closes name = true) (behind : List Tree) :
    behindClosing? name (inside ++ closing :: behind) = some behind := by
  induction inside with
  | nil => rw [List.nil_append, behindClosing?, if_pos closes]
  | cons n rest ih =>
      obtain ⟨first, others⟩ := List.forall_mem_cons.mp stays
      rw [List.cons_append, behindClosing?, first]
      exact ih others

/-- Spans are dropped on both sides of a place where no denied element is open. -/
theorem dropDeniedSpans_append (none : NoneOpen before) (behind : List Tree) :
    dropDeniedSpans (before ++ behind) = dropDeniedSpans before ++ dropDeniedSpans behind := by
  unfold NoneOpen at none
  fun_induction dropDeniedSpans before with
  | case1 => rfl
  | case2 n rest plain ih =>
      rw [List.cons_append, dropDeniedSpans_plain plain, ih (List.forall_mem_cons.mp none).2]
      rfl
  | case3 n rest name opens found closed ih =>
      rw [List.cons_append, dropDeniedSpans_closed opens (behindClosing?_append closed behind),
        ih none]
  | case4 n rest name opens unclosed =>
      cases opens.symm.trans (none n List.mem_cons_self)

/-- A span goes with its tags, whatever is inside. -/
theorem dropDeniedSpans_span (none : NoneOpen before) (opens : opening.opensDenied? = some name)
    (stays : ∀ n ∈ inside, n.closes name = false) (closes : closing.closes name = true)
    (behind : List Tree) :
    dropDeniedSpans (before ++ opening :: (inside ++ closing :: behind)) =
      dropDeniedSpans before ++ dropDeniedSpans behind := by
  rw [dropDeniedSpans_append none,
    dropDeniedSpans_closed opens (behindClosing?_span stays closes behind)]

section Related

variable {R : Tree → Tree → Prop} (tags : ∀ {n m}, R n m → m.tag? = n.tag?)

include tags

theorem behindClosing?_related (related : List.Forall₂ R ns ms) (name : List Char) :
    Option.Rel (List.Forall₂ R) (behindClosing? name ns) (behindClosing? name ms) := by
  induction related with
  | nil => exact .none
  | cons first rest ih =>
      rw [behindClosing?, behindClosing?, Tree.closes, Tree.closes, tags first]
      split
      · exact .some rest
      · exact ih

/-- Which constructs are dropped depends on the tags among them only. -/
theorem dropDeniedSpans_related (related : List.Forall₂ R ns ms) :
    List.Forall₂ R (dropDeniedSpans ns) (dropDeniedSpans ms) := by
  have opensSame {n m : Tree} (h : R n m) : m.opensDenied? = n.opensDenied? := by
    rw [Tree.opensDenied?, tags h, Tree.opensDenied?]
  fun_induction dropDeniedSpans ns generalizing ms with
  | case1 =>
      cases related
      rw [dropDeniedSpans]
      exact .nil
  | case2 n rest plain ih =>
      obtain _ | ⟨first, others⟩ := related
      rw [dropDeniedSpans_plain ((opensSame first).trans plain)]
      exact .cons first (ih others)
  | case3 n rest name opens found closed ih =>
      obtain _ | ⟨first, others⟩ := related
      have behind := behindClosing?_related tags others name
      rw [closed] at behind
      generalize again : behindClosing? name _ = r at behind
      obtain others | _ := behind
      rw [dropDeniedSpans_closed ((opensSame first).trans opens) again]
      exact ih others
  | case4 n rest name opens unclosed =>
      obtain _ | ⟨first, others⟩ := related
      have behind := behindClosing?_related tags others name
      rw [unclosed] at behind
      generalize again : behindClosing? name _ = r at behind
      obtain _ | _ := behind
      rw [dropDeniedSpans_unclosed ((opensSame first).trans opens) again]
      exact .cons first others

end Related

end Markdown

/-! ## Building -/

namespace Document

open Markdown

/-- Nodes that are built alike, up to descriptions that are not read. -/
def SameBuilt (r r' : Except Error (List Node)) : Prop :=
  r.map (List.map Node.undescribed) = r'.map (List.map Node.undescribed)

theorem SameBuilt.append {r r' s s' : Except Error (List Node)} (first : SameBuilt r r')
    (behind : SameBuilt s s') :
    SameBuilt (r.bind fun nodes => s.map (nodes ++ ·)) (r'.bind fun nodes => s'.map (nodes ++ ·)) := by
  cases r <;> cases r' <;> cases s <;> cases s' <;>
    simp_all [SameBuilt, Except.map, Except.bind]

theorem buildAll_cons (n : Tree) (rest : List Tree) :
    buildAll (n :: rest) = (build n).bind fun nodes => (buildAll rest).map (nodes ++ ·) := by
  rw [buildAll]
  cases build n with
  | error e => rfl
  | ok nodes => cases buildAll rest <;> rfl

theorem buildAll_related {ns ms : List Tree}
    (related : List.Forall₂ (fun n m => SameBuilt (build n) (build m)) ns ms) :
    SameBuilt (buildAll ns) (buildAll ms) := by
  induction related with
  | nil => rfl
  | cons first _ ih =>
      rw [buildAll_cons, buildAll_cons]
      exact first.append ih

theorem SameBuilt.singleton {n n' : Node} (same : n.undescribed = n'.undescribed) :
    SameBuilt (.ok [n]) (.ok [n']) :=
  congrArg (fun m => Except.ok [m]) same

/-- Whether the content of a construct, as written, has a part in its nodes, given what is built
    from the constructs inside. The content of an image has if that is nothing. -/
def ReadsContent (inside : Except Error (List Node)) : Kind → Prop
  | .fence _ | .codeBlock | .htmlBlock | .htmlTag | .text | .code => True
  | .image _ => inside = .ok []
  | _ => False

section NodesOf

variable {nodes nodes' : List Node} (same : nodes.map Node.undescribed = nodes'.map Node.undescribed)

include same

theorem element_same {tag : Tag} (reads : tag.readsSource = false) (attrs : Attributes) :
    (Node.element tag attrs nodes).undescribed = (Node.element tag attrs nodes').undescribed := by
  have empty : nodes = [] ↔ nodes' = [] := by
    rw [← List.map_eq_nil_iff (f := Node.undescribed), same, List.map_eq_nil_iff]
  rw [Node.undescribed_element reads, Node.undescribed_element reads, same]
  simp only [Attributes.undescribed, ne_eq, empty]

theorem image_same {attrs attrs' : Attributes} (shown : nodes ≠ [])
    (others : { attrs with alt := none } = { attrs' with alt := none }) :
    (Node.element .image attrs nodes).undescribed =
      (Node.element .image attrs' nodes').undescribed := by
  have shown' : nodes' ≠ [] := by
    rwa [ne_eq, ← List.map_eq_nil_iff (f := Node.undescribed), ← same, List.map_eq_nil_iff]
  rw [Node.undescribed_element rfl, Node.undescribed_element rfl, same, Attributes.undescribed,
    Attributes.undescribed, if_pos ⟨rfl, shown⟩, if_pos ⟨rfl, shown'⟩, others]

/-- The nodes of a construct depend on the nodes inside, and on its content if that is read. -/
theorem nodesOf_same {kind : Kind} {content content' : List Char}
    (unread : content' = content ∨ ¬ ReadsContent (.ok nodes) kind) :
    SameBuilt (nodesOf content nodes kind) (nodesOf content' nodes' kind) := by
  cases kind with
  | group | inline | footnoteBlock => exact congrArg Except.ok same
  | fence | codeBlock | htmlBlock | htmlTag | text | code =>
      obtain rfl := unread.resolve_right fun ignored => ignored trivial
      rfl
  | rule | softBreak | hardBreak | other => rfl
  | heading tag =>
      rw [nodesOf, nodesOf]
      split
      · exact .singleton (element_same same rfl _)
      · rfl
  | term =>
      have paragraph : [Node.element .paragraph {} nodes].map Node.undescribed =
          [Node.element .paragraph {} nodes'].map Node.undescribed :=
        congrArg (fun n => [n]) (element_same same rfl {})
      exact .singleton (element_same paragraph rfl _)
  | footnote index =>
      cases index with
      | none => rfl
      | some i =>
          rw [nodesOf, nodesOf]
          cases footnoteId (i + 1) with
          | error e => rfl
          | ok id => exact .singleton (element_same same rfl _)
  | footnoteReference index => cases index <;> rfl
  | image src =>
      rcases unread with rfl | shown
      · exact .singleton (element_same same rfl _)
      · exact .singleton (image_same same (fun none => shown (congrArg Except.ok none)) rfl)
  | _ => exact .singleton (element_same same rfl _)

end NodesOf

theorem readsContent_leaf {kind : Kind} (leaf : hasInside kind = false)
    (inside inside' : Except Error (List Node)) :
    ReadsContent inside kind ↔ ReadsContent inside' kind := by
  cases kind with
  | image => cases leaf
  | _ => exact Iff.rfl

/-- A construct is built alike if what is inside is, and its content stays or is not read. -/
theorem build_same {kind : Kind} {content content' : List Char} {children children' : List Tree}
    (inside : SameBuilt (buildAll (dropDeniedSpans children)) (buildAll (dropDeniedSpans children')))
    (unread : content' = content ∨ ¬ ReadsContent (buildAll (dropDeniedSpans children)) kind) :
    SameBuilt (build (.node kind content children)) (build (.node kind content' children')) := by
  rw [build, build]
  by_cases unnumbered : kind = .footnote none
  · rw [if_pos unnumbered, if_pos unnumbered]
    rfl
  rw [if_neg unnumbered, if_neg unnumbered]
  cases leaf : hasInside kind with
  | false =>
      rw [readsContent_leaf leaf _ (.ok [])] at unread
      exact nodesOf_same rfl unread
  | true =>
      rw [if_pos rfl, if_pos rfl]
      generalize buildAll (dropDeniedSpans children) = r,
        buildAll (dropDeniedSpans children') = r' at inside unread
      cases r <;> cases r'
      · cases inside
        rfl
      · cases inside
      · cases inside
      · exact nodesOf_same (Except.ok.inj inside) unread

/-! ## Noninterference -/

/-- Sibling constructs that differ in what stands in one denied span, among them or further inside,
    and in the contents of the constructs around it. -/
inductive Reworded : List Tree → List Tree → Prop where
  | span {name : List Char} {opening closing : Tree} {before inside inside' behind : List Tree} :
      NoneOpen before → opening.opensDenied? = some name → closing.closes name = true →
      (∀ n ∈ inside, n.closes name = false) → (∀ n ∈ inside', n.closes name = false) →
      Reworded (before ++ opening :: (inside ++ closing :: behind))
        (before ++ opening :: (inside' ++ closing :: behind))
  | within {kind : Kind} {content content' : List Char}
      {before behind children children' : List Tree} : Reworded children children' →
      (content' = content ∨ ¬ ReadsContent (buildAll (dropDeniedSpans children)) kind) →
      Reworded (before ++ .node kind content children :: behind)
        (before ++ .node kind content' children' :: behind)

/-- A construct without siblings. -/
theorem Reworded.only {children children' : List Tree} (h : Reworded children children') {kind : Kind}
    {content content' : List Char}
    (unread : content' = content ∨ ¬ ReadsContent (buildAll (dropDeniedSpans children)) kind) :
    Reworded [.node kind content children] [.node kind content' children'] :=
  @Reworded.within kind content content' [] [] children children' h unread

theorem tag?_of_unread {inside : Except Error (List Node)} {kind : Kind}
    {content content' : List Char} (children children' : List Tree)
    (unread : content' = content ∨ ¬ ReadsContent inside kind) :
    (Markdown.Tree.node kind content' children').tag? =
      (Markdown.Tree.node kind content children).tag? := by
  rcases unread with rfl | ignored
  · rfl
  · have noTag : kind ≠ .htmlTag := by
      rintro rfl
      exact ignored trivial
    rw [Tree.tag?, Tree.tag?, Tree.kind, if_neg noTag, Tree.kind, if_neg noTag]

theorem buildAll_reworded {ns ms : List Tree} (reworded : Reworded ns ms) :
    SameBuilt (buildAll (dropDeniedSpans ns)) (buildAll (dropDeniedSpans ms)) := by
  induction reworded with
  | span none opens closes stays stays' =>
      rw [dropDeniedSpans_span none opens stays closes, dropDeniedSpans_span none opens stays' closes]
      rfl
  | @within kind content content' before behind children children' _ unread ih =>
      have own := build_same ih unread
      have tags := tag?_of_unread children children' unread
      have unchanged (ns : List Tree) : List.Forall₂
          (fun n m => m.tag? = n.tag? ∧ SameBuilt (build n) (build m)) ns ns :=
        List.forall₂_same.mpr fun n _ => ⟨rfl, rfl⟩
      refine buildAll_related ((dropDeniedSpans_related And.left ?_).imp fun _ _ => And.right)
      exact List.rel_append (unchanged before) (.cons ⟨tags, own⟩ (unchanged behind))

/-- What stands in a denied span has no influence on the rendering of what is built. -/
theorem denied_spans_unread {ns ms : List Tree} (reworded : Reworded ns ms) (d : Document)
    (settings : Settings) (metadata : Option Metadata) :
    ((d.build? ns).bind fun d => render d settings metadata).mapError Error.message =
      ((d.build? ms).bind fun d => render d settings metadata).mapError Error.message := by
  have same := buildAll_reworded reworded
  rw [build?, build?]
  generalize buildAll (dropDeniedSpans ns) = r, buildAll (dropDeniedSpans ms) = r' at same
  cases r <;> cases r'
  · cases same
    rfl
  · cases same
  · cases same
  · have built := appendBuilt_undescribed d (Except.ok.inj same)
    refine Alike.mapError_eq ((render_undescribed _ settings metadata).trans ?_)
    rw [built]
    exact (render_undescribed _ settings metadata).symm

/-- An image of which something is built besides the span. -/
theorem denied_spans_unread_image :
    let tag (t : String) : Tree := .node .htmlTag t.toList []
    let words (t : String) : List Tree :=
      [.node .text "a".toList [], tag "<script>", .node .text t.toList [], tag "</script>"]
    let picture (t : String) : List Tree := [.node .paragraph [] [.node .inline t.toList
      [.node (.image "/u".toList) ("a<script>" ++ t ++ "</script>").toList (words t)]]]
    let shown (ns : List Tree) := (build? {} ns).bind fun d => render d {} none
    Reworded (picture "x") (picture "y") ∧
      (shown (picture "x")).mapError Error.message = (shown (picture "y")).mapError Error.message := by
  intro tag words picture shown
  let text (t : String) : Tree := .node .text t.toList []
  have span : Reworded (words "x") (words "y") :=
    @Reworded.span "script".toList (tag "<script>") (tag "</script>") [text "a"] [text "x"] [text "y"] []
      (by unfold NoneOpen; decide +kernel) (by decide) (by decide) (by decide) (by decide)
  have described : ¬ ReadsContent (buildAll (dropDeniedSpans (words "x"))) (.image "/u".toList) := by
    unfold ReadsContent
    decide +kernel
  have reworded : Reworded (picture "x") (picture "y") :=
    .only ((span.only (.inr described)).only (.inr id)) (.inl rfl)
  exact ⟨reworded, denied_spans_unread reworded {} {} none⟩

/-- An image of which nothing else is built shows a denied span, and so does an element behind a denied
    tag that is never closed. -/
theorem denied_span_is_shown :
    let tag (t : String) : Tree := .node .htmlTag t.toList []
    let picture (words : String) : List Tree := [.node .paragraph [] [.node .inline []
      [.node (.image "/u".toList) ("<script>" ++ words ++ "</script>").toList
        [tag "<script>", .node .text words.toList [], tag "</script>"]]]]
    let unclosed (words : String) : List Tree := [.node (.heading "h1".toList) [] [.node .inline []
      [tag "<form>", tag "<script>", .node .text words.toList [], tag "</script>"]]]
    let shown (ns : List Tree) := (build? {} ns).bind fun d => render d {} none
    shown (picture "x") = .ok "=> /u <script>x</script>\n".toList ∧
      shown (picture "y") = .ok "=> /u <script>y</script>\n".toList ∧
      shown (unclosed "x") = .ok "# x\n".toList ∧ shown (unclosed "y") = .ok "# y\n".toList := by
  intro tag picture unclosed shown
  let image (words : String) : Node := .element .paragraph {} [.element .image
    { uri := some "/u".toList, alt := some ("<script>" ++ words ++ "</script>").toList } []]
  have x : build? {} (picture "x") = .ok ⟨[image "x"], []⟩ := by decide +kernel
  have y : build? {} (picture "y") = .ok ⟨[image "y"], []⟩ := by decide +kernel
  refine ⟨?_, ?_, by decide +kernel, by decide +kernel⟩
  · simp only [shown, x, Except.bind, image]
    cbv
  · simp only [shown, y, Except.bind, image]
    cbv


end Document

end Gemtext
