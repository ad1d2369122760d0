import Gemtext.Proofs.UnclosedSpans

/-! # Dropped spans

Siblings fall into parts: single ones that are kept, and denied spans that are dropped whole. Behind
the parts stands nothing, or a denied tag that is never closed with all that follows it, which is
kept as well. These parts determine what is dropped, so that dropping spans a second time, when
there are only single siblings in front of the tag that is never closed, changes nothing.
-/

namespace Gemtext.Markdown

/-- A tag that opens a denied element, the siblings behind it, and the first among them that closes
    the element. -/
structure DeniedSpan where
  name : List Char
  opening : Tree
  inside : List Tree
  closing : Tree
  opens : opening.opensDenied? = some name
  stays : ∀ n ∈ inside, n.closes name = false
  closes : closing.closes name = true

def DeniedSpan.siblings (span : DeniedSpan) : List Tree :=
  span.opening :: (span.inside ++ [span.closing])

/-- A sibling that is kept, or a run of siblings that are dropped. -/
inductive Part where
  | kept (n : Tree)
  | dropped (span : DeniedSpan)

namespace Part

def siblings : Part → List Tree
  | kept n => [n]
  | dropped span => span.siblings

/-- What is left of a part. -/
def left : Part → List Tree
  | kept n => [n]
  | dropped _ => []

theorem flatMap_kept (ns : List Tree) :
    (ns.map kept).flatMap siblings = ns ∧ (ns.map kept).flatMap left = ns := by
  induction ns with
  | nil => exact ⟨rfl, rfl⟩
  | cons n rest ih => exact ⟨congrArg (n :: ·) ih.1, congrArg (n :: ·) ih.2⟩

theorem kept_mem_of_mem_left {parts : List Part} {n : Tree} (member : n ∈ parts.flatMap left) :
    kept n ∈ parts := by
  obtain ⟨part, inside, left⟩ := List.mem_flatMap.mp member
  cases part with
  | kept m => rwa [List.mem_singleton.mp left]
  | dropped span => cases left

end Part

/-- No part is kept that opens a denied element, and what is behind the parts begins with a denied
    tag that is never closed, if there is anything. -/
structure FallInto (ns : List Tree) (parts : List Part) (tail : List Tree) : Prop where
  siblings : ns = parts.flatMap Part.siblings ++ tail
  plain : ∀ n, .kept n ∈ parts → n.opensDenied? = none
  unclosed : tail = [] ∨ BeginUnclosed tail

namespace FallInto

variable {ns tail : List Tree} {parts : List Part}

/-- Siblings may have one more part in front. -/
theorem cons (fall : FallInto ns parts tail) (part : Part)
    (plain : ∀ n, part = .kept n → n.opensDenied? = none) :
    FallInto (part.siblings ++ ns) (part :: parts) tail where
  siblings := by rw [fall.siblings, List.flatMap_cons, List.append_assoc]
  plain n member := (List.mem_cons.mp member).elim (fun same => plain n same.symm) (fall.plain n)
  unclosed := fall.unclosed

/-- All siblings fall into parts. -/
theorem exists_parts (ns : List Tree) : ∃ parts tail, FallInto ns parts tail := by
  fun_induction dropDeniedSpans ns with
  | case1 => exact ⟨[], [], rfl, by simp, .inl rfl⟩
  | case2 n rest plain ih =>
      obtain ⟨parts, tail, fall⟩ := ih
      refine ⟨.kept n :: parts, tail, fall.cons (.kept n) ?_⟩
      rintro _ ⟨rfl⟩
      exact plain
  | case3 n rest name opens behind closed ih =>
      obtain ⟨parts, tail, fall⟩ := ih
      obtain ⟨inside, closing, rfl, stays, closes⟩ := behindClosing?_eq_some.mp closed
      let span : DeniedSpan := ⟨name, n, inside, closing, opens, stays, closes⟩
      have whole : n :: (inside ++ closing :: behind) = (Part.dropped span).siblings ++ behind := by
        simp [Part.siblings, DeniedSpan.siblings, span]
      exact ⟨.dropped span :: parts, tail, whole ▸ fall.cons (.dropped span) (by simp)⟩
  | case4 n rest name opens unclosed =>
      exact ⟨[], n :: rest, rfl, by simp,
        .inr ⟨n, rest, name, rfl, opens, behindClosing?_eq_none.mp unclosed⟩⟩

/-- The parts determine what is dropped. -/
theorem dropDeniedSpans_eq (fall : FallInto ns parts tail) :
    dropDeniedSpans ns = parts.flatMap Part.left ++ tail := by
  obtain ⟨rfl, plain, unclosed⟩ := fall
  induction parts with
  | nil =>
      rcases unclosed with rfl | ⟨n, rest, name, rfl, opens, stays⟩
      · rw [List.flatMap_nil, List.nil_append, dropDeniedSpans]
        rfl
      · exact dropDeniedSpans_unclosed opens (behindClosing?_eq_none.mpr stays)
  | cons part parts ih =>
      have behind := ih fun n member => plain n (List.mem_cons_of_mem part member)
      rw [List.flatMap_cons, List.flatMap_cons, List.append_assoc, List.append_assoc, ← behind]
      cases part with
      | kept n => exact dropDeniedSpans_plain (plain n List.mem_cons_self) _
      | dropped span =>
          have closed := behindClosing?_span span.stays span.closes
            (parts.flatMap Part.siblings ++ tail)
          refine Eq.trans ?_ (dropDeniedSpans_closed span.opens closed)
          simp [Part.siblings, DeniedSpan.siblings]

/-- What is left of siblings falls into the same parts, except for those that were dropped. -/
theorem again (fall : FallInto ns parts tail) :
    FallInto (parts.flatMap Part.left ++ tail) ((parts.flatMap Part.left).map .kept) tail where
  siblings := by rw [(Part.flatMap_kept _).1]
  plain n member := by
    obtain ⟨m, left, same⟩ := List.mem_map.mp member
    cases same
    exact fall.plain n (Part.kept_mem_of_mem_left left)
  unclosed := fall.unclosed

end FallInto

/-- Siblings are dropped in runs, each of which goes from a denied tag to the first one behind it
    that closes its element, and all others are kept in their order. Among those that are kept in front
    of a tag that is never closed, no other is denied, and a second time nothing is dropped. -/
theorem dropped_in_spans (ns : List Tree) :
    (∃ parts tail, FallInto ns parts tail ∧
      dropDeniedSpans ns = parts.flatMap Part.left ++ tail) ∧
      dropDeniedSpans (dropDeniedSpans ns) = dropDeniedSpans ns := by
  obtain ⟨parts, tail, fall⟩ := FallInto.exists_parts ns
  have once := fall.dropDeniedSpans_eq
  refine ⟨⟨parts, tail, fall, once⟩, ?_⟩
  rw [once, fall.again.dropDeniedSpans_eq, (Part.flatMap_kept _).2]

end Gemtext.Markdown
