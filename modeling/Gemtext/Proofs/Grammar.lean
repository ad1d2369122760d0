import Gemtext.Document.OfMarkdown

/-! # The grammar of Markdown trees

Which constructs may stand inside which. Lists, tables and their parts hold only their own
parts, and items stand in lists only. Tags of raw HTML stand in inline text only. Footnotes
stand in a footnote block at the root, outside of inline text, so that no denied span can take
one away.
-/

namespace Gemtext.Markdown

open Document (hasInside)

/-- Induction over a tree, with the hypothesis for every construct inside. -/
@[elab_as_elim]
theorem Tree.rec_strong {motive : Tree → Prop}
    (node : ∀ kind content children, (∀ c ∈ children, motive c) →
      motive (.node kind content children)) :
    ∀ n, motive n
  | .node kind content children => node kind content children fun c _ => rec_strong node c
termination_by n => sizeOf n
decreasing_by
  have smaller := List.sizeOf_lt_of_mem ‹c ∈ children›
  simp only [Tree.node.sizeOf_spec]
  omega

/-! ## Nesting -/

namespace Kind

def isItem : Kind → Bool
  | listItem | term | description => true
  | _ => false

def isList : Kind → Bool
  | bulletList | orderedList | definitionList => true
  | _ => false

def isCell : Kind → Bool
  | tableCell _ => true
  | _ => false

/-- Whether a construct may stand right inside another one. Where no list and no table asks for
    its own parts, everything may stand but items. -/
def admits : (outer inner : Kind) → Bool
  | bulletList, kind | orderedList, kind => kind == listItem
  | definitionList, kind => kind == term || kind == description
  | table, kind => kind == tableHead || kind == tableBody
  | tableHead, kind | tableBody, kind => kind == tableRow
  | tableRow, kind => kind.isCell
  | _, kind => !kind.isItem

/-- Items stand in lists, and nothing else does. -/
theorem isItem_of_admits {outer inner : Kind} (h : outer.admits inner = true) :
    inner.isItem = outer.isList := by
  cases outer with
  | bulletList | orderedList =>
      rw [eq_of_beq h]
      rfl
  | definitionList =>
      rcases Bool.or_eq_true_iff.mp h with isTerm | isDescription
      · rw [eq_of_beq isTerm]
        rfl
      · rw [eq_of_beq isDescription]
        rfl
  | table =>
      rcases Bool.or_eq_true_iff.mp h with isHead | isBody
      · rw [eq_of_beq isHead]
        rfl
      · rw [eq_of_beq isBody]
        rfl
  | tableHead | tableBody =>
      rw [eq_of_beq h]
      rfl
  | tableRow =>
      cases inner with
      | tableCell style => rfl
      | _ => cases h
  | _ => exact Bool.not_eq_true' _ ▸ h

def footnoteIndex? : Kind → Option Int
  | footnote index => index
  | _ => none

def referenceIndex? : Kind → Option Int
  | footnoteReference index => index
  | _ => none

/-- Inline constructs around other ones. -/
def isSpan : Kind → Bool
  | inline | emphasis | strong | strikethrough | link _ _ | image _ => true
  | _ => false

/-- Blocks around inline text. -/
def isTextBlock : Kind → Bool
  | paragraph | heading _ | term | tableCell _ => true
  | _ => false

end Kind

def headingTags : List (List Char) := ["h1", "h2", "h3", "h4", "h5", "h6"].map String.toList

/-- The parts of a Markdown tree: the root, the body, the footnotes, and inline text. -/
inductive Region where
  | root
  | body
  | notes
  | text
  deriving DecidableEq, Repr

namespace Region

/-- Whether a construct may stand in a part of a tree. -/
def takes (region : Region) : Kind → Bool
  | .htmlTag => region == text
  | .footnote index => region == notes && index.isSome
  | .footnoteReference index => index.isSome
  | .heading tag => headingTags.contains tag
  | _ => true

def below : Region → Region
  | root => body
  | region => region

/-- The parts of a tree that the inside of a construct may belong to. -/
def inside (region : Region) (kind : Kind) : List Region :=
  if kind.isSpan || !hasInside kind then [text]
  else if kind.isTextBlock then [region.below, text]
  else if kind = .footnoteBlock ∧ region = root then [notes]
  else [region.below]

theorem ne_htmlTag {region : Region} (noText : region ≠ text) {kind : Kind}
    (h : region.takes kind = true) : kind ≠ .htmlTag := by
  rintro rfl
  exact noText (eq_of_beq h)

theorem inside_text {kind : Kind} {inner : Region} (member : inner ∈ text.inside kind) :
    inner = text := by
  unfold inside at member
  split at member
  · exact List.mem_singleton.mp member
  · split at member
    · simpa [below] using member
    · simpa [below] using member

theorem inside_leaf {region : Region} {kind : Kind} (leaf : hasInside kind = false) :
    region.inside kind = [text] := by
  unfold inside
  rw [leaf, Bool.not_false, Bool.or_true, if_pos rfl]

end Region

/-! ## Grammatical trees -/

mutual
/-- Whether a tree may stand in a part of a Markdown tree. -/
def Tree.fits (region : Region) : Tree → Bool
  | .node kind _ children =>
      region.takes kind && children.all (kind.admits ·.kind) &&
        (region.inside kind).any fun inner => allFit inner children

def allFit (region : Region) : List Tree → Bool
  | [] => true
  | n :: rest => n.fits region && allFit region rest
end

theorem allFit_iff {region : Region} {ns : List Tree} :
    allFit region ns = true ↔ ∀ n ∈ ns, n.fits region = true := by
  induction ns with
  | nil => simp [allFit]
  | cons n rest ih => rw [allFit, Bool.and_eq_true, ih, List.forall_mem_cons]

theorem Tree.fits_node {region : Region} {kind : Kind} {content : List Char}
    {children : List Tree} :
    (Tree.node kind content children).fits region = true ↔ region.takes kind = true ∧
      (∀ c ∈ children, kind.admits c.kind = true) ∧
      ∃ inner ∈ region.inside kind, ∀ c ∈ children, c.fits inner = true := by
  simp only [fits, Bool.and_eq_true, List.all_eq_true, List.any_eq_true, allFit_iff, and_assoc]

mutual
/-- The numberings that a tree holds. -/
def Tree.indices (index? : Kind → Option Int) : Tree → List Int
  | .node kind _ children => (index? kind).toList ++ allIndices index? children

def allIndices (index? : Kind → Option Int) : List Tree → List Int
  | [] => []
  | n :: rest => n.indices index? ++ allIndices index? rest
end

theorem mem_allIndices {index? : Kind → Option Int} {ns : List Tree} {i : Int} :
    i ∈ allIndices index? ns ↔ ∃ n ∈ ns, i ∈ n.indices index? := by
  induction ns with
  | nil => simp [allIndices]
  | cons n rest ih => simp only [allIndices, List.mem_append, ih, List.mem_cons, exists_eq_or_imp]

/-- Trees that stand side by side at the root, of which every footnote reference refers to a
    footnote among them. -/
structure Grammatical (roots : List Tree) : Prop where
  free : ∀ n ∈ roots, n.kind.isItem = false
  fits : ∀ n ∈ roots, n.fits .root = true
  defined : ∀ i ∈ allIndices Kind.referenceIndex? roots, i ∈ allIndices Kind.footnoteIndex? roots

theorem grammatical_iff {roots : List Tree} :
    Grammatical roots ↔ (∀ n ∈ roots, n.kind.isItem = false) ∧ (∀ n ∈ roots, n.fits .root = true) ∧
      ∀ i ∈ allIndices Kind.referenceIndex? roots, i ∈ allIndices Kind.footnoteIndex? roots :=
  ⟨fun h => ⟨h.free, h.fits, h.defined⟩, fun ⟨free, fits, defined⟩ => ⟨free, fits, defined⟩⟩

instance (roots : List Tree) : Decidable (Grammatical roots) :=
  decidable_of_iff _ grammatical_iff.symm

/-! ## Footnotes and denied spans -/

theorem footnoteIndex?_text {kind : Kind} (h : Region.text.takes kind = true) :
    kind.footnoteIndex? = none := by
  cases kind with
  | footnote index => cases h
  | _ => rfl

/-- No footnote stands in inline text. -/
theorem Tree.indices_text {n : Tree} (h : n.fits .text = true) :
    n.indices Kind.footnoteIndex? = [] := by
  induction n using Tree.rec_strong with
  | node kind content children ih =>
      obtain ⟨takes, _, inner, member, each⟩ := fits_node.mp h
      obtain rfl := Region.inside_text member
      rw [indices, footnoteIndex?_text takes, List.eq_nil_iff_forall_not_mem]
      intro i found
      obtain ⟨c, child, below⟩ := mem_allIndices.mp found
      rw [ih c child (each c child)] at below
      cases below

theorem allIndices_text {ns : List Tree} (h : ∀ n ∈ ns, n.fits .text = true) :
    allIndices Kind.footnoteIndex? ns = [] := by
  rw [List.eq_nil_iff_forall_not_mem]
  intro i found
  obtain ⟨n, member, below⟩ := mem_allIndices.mp found
  rw [Tree.indices_text (h n member)] at below
  cases below

/-- Where no tag of raw HTML stands, there is no denied span. -/
theorem dropDeniedSpans_eq_self {ns : List Tree} (h : ∀ n ∈ ns, n.kind ≠ .htmlTag) :
    dropDeniedSpans ns = ns := by
  induction ns with
  | nil => rw [dropDeniedSpans]
  | cons n rest ih =>
      obtain ⟨first, behind⟩ := List.forall_mem_cons.mp h
      have opens : n.opensDenied? = none := by
        rw [Tree.opensDenied?, Tree.tag?, if_neg first]
      rw [dropDeniedSpans, opens, ih behind]

theorem Tree.takes_of_fits {region : Region} {n : Tree} (h : n.fits region = true) :
    region.takes n.kind = true := by
  cases n with
  | node kind content children => exact (fits_node.mp h).1

theorem dropDeniedSpans_of_fits {region : Region} (noText : region ≠ .text) {ns : List Tree}
    (h : ∀ n ∈ ns, n.fits region = true) : dropDeniedSpans ns = ns :=
  dropDeniedSpans_eq_self fun n member => Region.ne_htmlTag noText (Tree.takes_of_fits (h n member))

/-- Dropping denied spans drops no footnote. -/
theorem mem_footnotes_dropDeniedSpans {region : Region} {ns : List Tree}
    (h : ∀ n ∈ ns, n.fits region = true) {i : Int}
    (member : i ∈ allIndices Kind.footnoteIndex? ns) :
    i ∈ allIndices Kind.footnoteIndex? (dropDeniedSpans ns) := by
  by_cases inText : region = .text
  · subst inText
    rw [allIndices_text h] at member
    cases member
  · rwa [dropDeniedSpans_of_fits inText h]

end Gemtext.Markdown
