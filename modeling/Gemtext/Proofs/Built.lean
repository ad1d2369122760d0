import Gemtext.Proofs.Failures
import Gemtext.Proofs.Grammar
import Gemtext.Proofs.Sound

/-! # Building grammatical trees

Grammatical trees are built into sound documents, unless the number of a footnote has too many
digits for an id. Every footnote of them is registered, so every footnote reference resolves.

The induction goes over the trees. What it carries (`Built`) says of the nodes that trees are
built into: they are sound as soon as the footnotes they refer to are known, they are list items
where the trees are items, and all the footnotes are among them. Where nothing is built, it carries
the number that is too long (`Builds`).
-/

namespace Gemtext

open Document Markdown

/-! ## Nodes that hold definitions -/

/-- A tree with a footnote definition that claims an id. -/
def Node.Defines (id : List Char) (n : Node) : Prop :=
  ∃ path m, n.at? path = some m ∧ m.isDefinition = true ∧ id ∈ m.attrs.ids

theorem Node.Defines.of_child {id : List Char} {tag : Tag} {attrs : Attributes}
    {children : List Node} {c : Node} (h : c.Defines id) (member : c ∈ children) :
    (Node.element tag attrs children).Defines id := by
  obtain ⟨path, m, located, isDefinition, claims⟩ := h
  obtain ⟨path', found⟩ := Node.at?_child member located
  exact ⟨path', m, found, isDefinition, claims⟩

/-- Blocks that are built onto a document register what they define. -/
theorem Document.mem_ids_appendBuilt {d : Document} {ns : List Node} {n : Node} {id : List Char}
    (member : n ∈ ns) (h : n.Defines id) : id ∈ (d.appendBuilt ns).ids := by
  obtain ⟨path, m, located, isDefinition, claims⟩ := h
  obtain ⟨i, inside, rfl⟩ := List.mem_iff_getElem.mp member
  refine mem_ids_registerAll.mpr (.inr ⟨((d.children.length + i) :: path, m), ?_, claims⟩)
  exact Node.mem_definitionsFrom_iff.mpr
    ⟨i, ns[i], path, rfl, List.getElem?_eq_getElem inside, located, isDefinition⟩

/-! ## The node of a construct -/

section NodesOf

variable {known : List (List Char)} {kind : Kind} {content : List Char} {children nodes : List Node}

theorem onlyText_eq {t : List Char} {c : Node} (member : c ∈ onlyText t) : c = .text t := by
  unfold onlyText at member
  split at member
  · cases member
  · exact List.mem_singleton.mp member

theorem element_onlyText_sound {tag : Tag} {attrs : Attributes} (serve : attrs.Serve known tag)
    (noList : tag.isList = false) (t : List Char) :
    (Node.element tag attrs (onlyText t)).Sound known := by
  refine .element serve (fun c member => ?_) fun c member => ?_
  · rw [onlyText_eq member, noList]
    rfl
  · rw [onlyText_eq member]
    exact .text t

theorem heading_level {tag : List Char} (h : headingTags.contains tag = true) :
    ∃ level, integer? (tag.drop 1) = some level ∧ 1 ≤ level := by
  have all : ∀ tag ∈ headingTags, ∃ level ∈ integer? (tag.drop 1), 1 ≤ level := by decide
  exact all tag (List.contains_iff_mem.mp h)

/-- The numbering of a construct is a footnote's own or that of the one it refers to. -/
def Kind.Numbers (kind : Kind) (i : Int) : Prop :=
  kind.footnoteIndex? = some i ∨ kind.referenceIndex? = some i

/-- A construct has nodes, unless its number is too long. -/
theorem nodesOf_ok_or {region : Region} (takes : region.takes kind = true) (content : List Char)
    (children : List Node) : (∃ nodes, nodesOf content children kind = .ok nodes) ∨
      nodesOf content children kind = .error .longNumber ∧
        ∃ i, Kind.Numbers kind i ∧ ¬ IsWritable (i + 1) := by
  have named (i : Int) (nodes : List Char → List Node) :
      (∃ ns, (footnoteId (i + 1)).map nodes = .ok ns) ∨
        (footnoteId (i + 1)).map nodes = .error .longNumber ∧ ¬ IsWritable (i + 1) := by
    cases given : footnoteId (i + 1) with
    | ok id => exact .inl ⟨_, rfl⟩
    | error e =>
        obtain ⟨long, rfl⟩ := footnoteId_eq_error.mp given
        exact .inr ⟨rfl, long⟩
  cases kind with
  | heading tag =>
      obtain ⟨level, read, _⟩ := heading_level takes
      rw [nodesOf, read]
      exact .inl ⟨_, rfl⟩
  | footnote index =>
      obtain ⟨i, rfl⟩ := Option.isSome_iff_exists.mp (Bool.and_eq_true_iff.mp takes).2
      refine (named i _).imp_right ?_
      rintro ⟨failed, long⟩
      exact ⟨failed, i, .inl rfl, long⟩
  | footnoteReference index =>
      obtain ⟨i, rfl⟩ := Option.isSome_iff_exists.mp takes
      refine (named i _).imp_right ?_
      rintro ⟨failed, long⟩
      exact ⟨failed, i, .inr rfl, long⟩
  | _ => exact .inl ⟨_, rfl⟩

/-- The nodes of a construct are sound if those inside it are, and the footnote that it refers
    to is known. -/
theorem nodesOf_sound {region : Region} (takes : region.takes kind = true)
    (built : nodesOf content children kind = .ok nodes)
    (refers : ∀ i id, kind.referenceIndex? = some i → footnoteId (i + 1) = .ok id → id ∈ known)
    (items : ∀ c ∈ children, c.hasTag .listItem = kind.isList)
    (inside : ∀ c ∈ children, c.Sound known) : ∀ n ∈ nodes, n.Sound known := by
  cases kind with
  | group | inline | footnoteBlock =>
      cases built
      exact inside
  | heading tag =>
      obtain ⟨level, read, positive⟩ := heading_level takes
      rw [nodesOf, read] at built
      cases built
      exact List.forall_mem_singleton.mpr (.element ⟨level, rfl, positive⟩ items inside)
  | term =>
      cases built
      have paragraph : (Node.element .paragraph {} children).Sound known :=
        .element trivial items inside
      exact List.forall_mem_singleton.mpr (.element trivial (List.forall_mem_singleton.mpr rfl)
        (List.forall_mem_singleton.mpr paragraph))
  | fence info =>
      cases built
      refine List.forall_mem_singleton.mpr (element_onlyText_sound ?_ rfl _)
      trivial
  | codeBlock | htmlBlock | htmlTag | code =>
      cases built
      refine List.forall_mem_singleton.mpr (element_onlyText_sound ?_ rfl _)
      trivial
  | rule | hardBreak =>
      cases built
      exact List.forall_mem_singleton.mpr
        (.element trivial (List.forall_mem_nil _) (List.forall_mem_nil _))
  | footnote index =>
      obtain ⟨i, rfl⟩ := Option.isSome_iff_exists.mp (Bool.and_eq_true_iff.mp takes).2
      obtain ⟨id, _, rfl⟩ := map_eq_ok.mp built
      exact List.forall_mem_singleton.mpr (.element trivial items inside)
  | footnoteReference index =>
      obtain ⟨i, rfl⟩ := Option.isSome_iff_exists.mp takes
      obtain ⟨id, given, rfl⟩ := map_eq_ok.mp built
      have points := refers i id rfl given
      exact List.forall_mem_singleton.mpr
        (.element ⟨⟨i + 1, rfl, (footnoteId_eq_ok.mp given).1⟩, id, points, rfl⟩
          (List.forall_mem_nil _) (List.forall_mem_nil _))
  | text | softBreak =>
      cases built
      exact List.forall_mem_singleton.mpr (.text _)
  | link href title =>
      cases built
      exact List.forall_mem_singleton.mpr (.element ⟨href, rfl⟩ items inside)
  | image src =>
      cases built
      exact List.forall_mem_singleton.mpr (.element ⟨src, rfl⟩ items inside)
  | other =>
      cases built
      exact List.forall_mem_nil _
  | _ =>
      cases built
      exact List.forall_mem_singleton.mpr (.element trivial items inside)

/-- The nodes of items are list items, and no other nodes are. -/
theorem nodesOf_item (built : nodesOf content children kind = .ok nodes)
    (items : ∀ c ∈ children, c.hasTag .listItem = kind.isList) :
    ∀ n ∈ nodes, n.hasTag .listItem = kind.isItem := by
  cases kind with
  | group | inline | footnoteBlock =>
      cases built
      exact items
  | heading tag =>
      rw [nodesOf] at built
      split at built
      · cases built
        exact List.forall_mem_singleton.mpr rfl
      · cases built
  | footnote index | footnoteReference index =>
      cases index with
      | none => cases built
      | some i =>
          obtain ⟨id, _, rfl⟩ := map_eq_ok.mp built
          exact List.forall_mem_singleton.mpr rfl
  | other =>
      cases built
      exact List.forall_mem_nil _
  | _ =>
      cases built
      exact List.forall_mem_singleton.mpr rfl

/-- What is defined inside a construct is defined in its nodes. -/
theorem nodesOf_defines (built : nodesOf content children kind = .ok nodes)
    (holds : hasInside kind = true) {id : List Char} {c : Node} (member : c ∈ children)
    (defines : c.Defines id) : ∃ n ∈ nodes, n.Defines id := by
  cases kind with
  | group | inline | footnoteBlock =>
      cases built
      exact ⟨c, member, defines⟩
  | heading tag =>
      rw [nodesOf] at built
      split at built
      · cases built
        exact ⟨_, List.mem_singleton_self _, defines.of_child member⟩
      · cases built
  | term =>
      cases built
      exact ⟨_, List.mem_singleton_self _,
        (defines.of_child member).of_child (List.mem_singleton_self _)⟩
  | footnote index =>
      cases index with
      | none => cases built
      | some i =>
          obtain ⟨id, _, rfl⟩ := map_eq_ok.mp built
          exact ⟨_, List.mem_singleton_self _, defines.of_child member⟩
  | fence | codeBlock | rule | htmlBlock | htmlTag | footnoteReference | text | softBreak
  | hardBreak | code | other => cases holds
  | _ =>
      cases built
      exact ⟨_, List.mem_singleton_self _, defines.of_child member⟩

theorem nodesOf_footnote {i : Int} (built : nodesOf content children kind = .ok nodes)
    (isNote : kind.footnoteIndex? = some i) :
    ∃ id, footnoteId (i + 1) = .ok id ∧ ∃ n ∈ nodes, n.Defines id := by
  cases kind with
  | footnote index =>
      obtain rfl : index = some i := isNote
      obtain ⟨id, given, rfl⟩ := map_eq_ok.mp built
      exact ⟨id, given, _, List.mem_singleton_self _, [], _, rfl, rfl, List.mem_singleton_self _⟩
  | _ => cases isNote

end NodesOf

/-! ## Building -/

/-- What trees are built into: nodes that are sound when all footnotes are known to which the
    trees refer, that are list items exactly where the trees are items, and that define every
    footnote of the trees. -/
structure Built (ts : List Tree) (nodes : List Node) : Prop where
  sound : ∀ known, (∀ i ∈ allIndices Kind.referenceIndex? ts, ∀ id,
    footnoteId (i + 1) = .ok id → id ∈ known) → ∀ n ∈ nodes, n.Sound known
  item : ∀ n ∈ nodes, ∃ t ∈ ts, n.hasTag .listItem = t.kind.isItem
  defines : ∀ i ∈ allIndices Kind.footnoteIndex? ts, ∃ id, footnoteId (i + 1) = .ok id ∧
    ∃ n ∈ nodes, n.Defines id

namespace Built

theorem nil : Built [] [] := ⟨nofun, nofun, nofun⟩

theorem cons {t : Tree} {ts : List Tree} {own more : List Node} (first : Built [t] own)
    (rest : Built ts more) : Built (t :: ts) (own ++ more) where
  sound := by
    intro known refers
    refine List.forall_mem_append.mpr ⟨first.sound known fun i member => ?_,
      rest.sound known fun i member => ?_⟩
    · rw [allIndices, allIndices, List.append_nil] at member
      exact refers i (List.mem_append_left _ member)
    · exact refers i (List.mem_append_right _ member)
  item := by
    refine List.forall_mem_append.mpr ⟨fun n member => ?_, fun n member => ?_⟩
    · obtain ⟨c, isFirst, same⟩ := first.item n member
      exact ⟨c, List.mem_cons.mpr (.inl (List.mem_singleton.mp isFirst)), same⟩
    · obtain ⟨c, behind, same⟩ := rest.item n member
      exact ⟨c, List.mem_cons_of_mem t behind, same⟩
  defines := by
    intro i member
    rcases List.mem_append.mp member with here | behind
    · obtain ⟨id, given, n, found, defines⟩ := first.defines i (by simpa [allIndices] using here)
      exact ⟨id, given, n, List.mem_append_left _ found, defines⟩
    · obtain ⟨id, given, n, found, defines⟩ := rest.defines i behind
      exact ⟨id, given, n, List.mem_append_right _ found, defines⟩

end Built

/-- A number for a footnote of trees, or for one that they refer to, which is too long. -/
def Overlong (ts : List Tree) : Prop :=
  ∃ i, (i ∈ allIndices Kind.footnoteIndex? ts ∨ i ∈ allIndices Kind.referenceIndex? ts) ∧
    ¬ IsWritable (i + 1)

theorem Overlong.mono {ts us : List Tree}
    (within : ∀ index? : Kind → Option Int, allIndices index? ts ⊆ allIndices index? us)
    (h : Overlong ts) : Overlong us := by
  obtain ⟨i, found, long⟩ := h
  exact ⟨i, found.imp (fun inside => within _ inside) fun inside => within _ inside, long⟩

/-- What building trees gives: nodes, or the error of a number that is too long. -/
inductive Builds (ts : List Tree) : Except Error (List Node) → Prop where
  | built {nodes : List Node} : Built ts nodes → Builds ts (.ok nodes)
  | overlong : Overlong ts → Builds ts (.error .longNumber)

theorem buildAll_builds {ts : List Tree} (each : ∀ t ∈ ts, Builds [t] (build t)) :
    Builds ts (buildAll ts) := by
  induction ts with
  | nil =>
      rw [buildAll]
      exact .built .nil
  | cons t rest ih =>
      have first := each t List.mem_cons_self
      have behind := ih fun c member => each c (List.mem_cons_of_mem t member)
      rw [buildAll]
      generalize build t = own at first
      generalize buildAll rest = more at behind
      cases first with
      | overlong long =>
          exact .overlong (long.mono fun index? => by simp [allIndices])
      | built first =>
          cases behind with
          | overlong long =>
              exact .overlong (long.mono fun index? => by simp [allIndices])
          | built behind => exact .built (first.cons behind)

theorem buildAll_single (t : Tree) : buildAll [t] = build t := by
  rw [buildAll, buildAll]
  cases build t <;> simp

theorem build?_single {d : Document} {t : Tree} (plain : t.kind ≠ .htmlTag) :
    d.build? [t] = (build t).map d.appendBuilt := by
  rw [build?, dropDeniedSpans_eq_self (List.forall_mem_singleton.mpr plain), buildAll_single]

/-- The nodes of a construct around nodes that are built from what is inside it. -/
theorem Built.around {region : Region} {kind : Kind} {children : List Tree} {inside : List Node}
    (content : List Char) (takes : region.takes kind = true)
    (admits : ∀ c ∈ children, kind.admits c.kind = true)
    (built : Built (if hasInside kind then dropDeniedSpans children else []) inside)
    (kept : ∀ i ∈ allIndices Kind.footnoteIndex? children, hasInside kind = true ∧
      i ∈ allIndices Kind.footnoteIndex? (dropDeniedSpans children)) :
    Builds [.node kind content children] (nodesOf content inside kind) := by
  have within : ∀ c ∈ (if hasInside kind then dropDeniedSpans children else []), c ∈ children := by
    intro c member
    split at member
    · exact (dropDeniedSpans_sublist children).subset member
    · cases member
  have items : ∀ c ∈ inside, c.hasTag .listItem = kind.isList := by
    intro c member
    obtain ⟨t, child, same⟩ := built.item c member
    exact same.trans (Kind.isItem_of_admits (admits t (within t child)))
  have own {index? : Kind → Option Int} {i : Int} (numbered : index? kind = some i) :
      i ∈ allIndices index? [.node kind content children] := by
    rw [allIndices, allIndices, List.append_nil, Tree.indices, numbered]
    exact List.mem_append_left _ (List.mem_singleton_self i)
  rcases nodesOf_ok_or takes content inside with ⟨nodes, given⟩ | ⟨failed, i, numbered, long⟩
  · rw [given]
    refine .built ⟨?_, fun n member => ?_, fun i member => ?_⟩
    · intro known refers
      refine nodesOf_sound takes given (fun i id isRef => refers i (own isRef) id) items
        (built.sound known fun i member => refers i ?_)
      rw [allIndices, allIndices, List.append_nil, Tree.indices]
      obtain ⟨t, child, below⟩ := mem_allIndices.mp member
      exact List.mem_append_right _ (mem_allIndices.mpr ⟨t, within t child, below⟩)
    · exact ⟨_, List.mem_singleton_self _, nodesOf_item given items n member⟩
    · rw [allIndices, allIndices, List.append_nil, Tree.indices] at member
      rcases List.mem_append.mp member with here | below
      · exact nodesOf_footnote given (Option.mem_toList.mp here)
      · obtain ⟨holds, stays⟩ := kept i below
        rw [if_pos holds] at built
        obtain ⟨id, named, n, found, defines⟩ := built.defines i stays
        exact ⟨id, named, nodesOf_defines given holds found defines⟩
  · rw [failed]
    exact .overlong ⟨i, numbered.imp own own, long⟩

/-- A tree that may stand somewhere is built, unless a number in it is too long. -/
theorem build_of_fits {region : Region} {t : Tree} (fits : t.fits region = true) :
    Builds [t] (build t) := by
  induction t using Tree.rec_strong generalizing region with
  | node kind content children ih =>
      obtain ⟨takes, admits, inner, member, each⟩ := Tree.fits_node.mp fits
      have numbered : kind ≠ .footnote none := by
        rintro rfl
        cases (Bool.and_eq_true_iff.mp takes).2
      have inside : Builds (if hasInside kind then dropDeniedSpans children else [])
          (if hasInside kind then buildAll (dropDeniedSpans children) else .ok []) := by
        split
        · refine buildAll_builds fun c kept => ?_
          have child := (dropDeniedSpans_sublist children).subset kept
          exact ih c child (each c child)
        · exact .built .nil
      -- Constructs whose inside is not read hold inline text at most, and so no footnote.
      have kept : ∀ i ∈ allIndices Kind.footnoteIndex? children, hasInside kind = true ∧
          i ∈ allIndices Kind.footnoteIndex? (dropDeniedSpans children) := by
        intro i found
        cases holds : hasInside kind with
        | true => exact ⟨rfl, mem_footnotes_dropDeniedSpans each found⟩
        | false =>
            rw [Region.inside_leaf holds, List.mem_singleton] at member
            subst member
            rw [allIndices_text each] at found
            cases found
      rw [build, if_neg numbered]
      generalize (if hasInside kind then buildAll (dropDeniedSpans children) else .ok []) = result
        at inside
      cases inside with
      | built built => exact Built.around content takes admits built kept
      | overlong long =>
          refine .overlong (long.mono fun index? i found => ?_)
          rw [allIndices, allIndices, List.append_nil, Tree.indices]
          refine List.mem_append_right _ ?_
          split at found
          · obtain ⟨c, child, below⟩ := mem_allIndices.mp found
            exact mem_allIndices.mpr ⟨c, (dropDeniedSpans_sublist children).subset child, below⟩
          · cases found

/-! ## Documents -/

/-- A document that is built from grammatical trees is sound. -/
theorem sound_of_built {roots : List Tree} (grammatical : Grammatical roots) {nodes : List Node}
    (built : Built roots nodes) : (appendBuilt {} nodes).Sound := by
  have known (i : Int) (member : i ∈ allIndices Kind.footnoteIndex? roots) (id : List Char)
      (given : footnoteId (i + 1) = .ok id) : id ∈ (appendBuilt {} nodes).ids := by
    obtain ⟨id', named, n, found, defines⟩ := built.defines i member
    obtain rfl := Except.ok.inj (named.symm.trans given)
    exact mem_ids_appendBuilt found defines
  -- What is built does not depend on what is known, so the ids may be those registered in the end.
  have sounds : ∀ n ∈ nodes, n.Sound (appendBuilt {} nodes).ids :=
    built.sound _ fun i member => known i (grammatical.defined i member)
  constructor
  · intro c member
    rw [appendBuilt_children] at member
    obtain ⟨t, root, same⟩ := built.item c member
    exact ⟨sounds c member, same.trans (grammatical.free t root)⟩
  · intro entry member
    rcases mem_registerAll member with old | ⟨path, _, added⟩
    · cases old
    · obtain ⟨i, c, rest, _, inside, located, _⟩ := Node.mem_definitionsFrom_iff.mp added
      exact (sounds c (List.mem_of_getElem? inside)).at? located

/-- Grammatical trees are built if the numbers of all footnotes among them can be written, and else
    it is for such a number that they are not. Every footnote of what is built is registered, and it
    renders with any settings and metadata, unless it is nested too deep or raw HTML in it is
    refused. -/
theorem grammatical_renders {roots : List Tree} (grammatical : Grammatical roots) :
    ((∃ i ∈ allIndices Kind.footnoteIndex? roots, ¬ IsWritable (i + 1)) →
      build? {} roots = .error .longNumber) ∧
    ((∀ i ∈ allIndices Kind.footnoteIndex? roots, IsWritable (i + 1)) →
      ∃ d, build? {} roots = .ok d ∧
        (∀ i ∈ allIndices Kind.footnoteIndex? roots, ∃ id entry,
          footnoteId (i + 1) = .ok id ∧ d.definition? id = some entry) ∧
        ∀ settings metadata e, render d settings metadata = .error e →
          (∃ n, e = .malformed (.tooDeep settings.maxNestingDepth) (some n)) ∨
            ∃ cause, e = .rejected cause ∧
              ∃ m, d.Holds m ∧ m.hasTag .raw = true ∧ Html.Refused m.source cause) := by
  have builds := buildAll_builds fun t member => build_of_fits (grammatical.fits t member)
  have noText : Region.root ≠ .text := by decide
  rw [build?, dropDeniedSpans_of_fits noText grammatical.fits]
  generalize buildAll roots = result at builds
  cases builds with
  | overlong overlong =>
      obtain ⟨i, found, long⟩ := overlong
      refine ⟨fun _ => rfl, fun short => absurd (short i ?_) long⟩
      exact found.elim id (grammatical.defined i)
  | @built nodes built =>
      constructor
      · rintro ⟨i, member, long⟩
        obtain ⟨id, named, _⟩ := built.defines i member
        exact absurd (footnoteId_eq_ok.mp named).1 long
      · intro _
        refine ⟨appendBuilt {} nodes, rfl, fun i member => ?_, fun settings metadata e failed => ?_⟩
        · obtain ⟨id, named, n, found, defines⟩ := built.defines i member
          obtain ⟨entry, held⟩ := mem_ids.mp (mem_ids_appendBuilt found defines)
          exact ⟨id, entry, named, held⟩
        · exact render_error_of_sound (sound_of_built grammatical built) failed

/-- A list and a footnote, each with a reference inside a denied span and one behind it. -/
theorem grammatical_renders_footnote :
    let tag (t : String) : Tree := .node .htmlTag t.toList []
    let mark : Tree := .node (.footnoteReference (some 0)) [] []
    let words : Tree := .node .inline [] [tag "<script>", mark, tag "</script>", mark]
    let paragraph : Tree := .node .paragraph [] [words]
    let list : Tree := .node .bulletList [] [.node .listItem [] [paragraph]]
    let notes : Tree := .node .footnoteBlock [] [.node (.footnote (some 0)) [] [paragraph]]
    Grammatical [list, notes] ∧
      (∀ i ∈ allIndices Kind.footnoteIndex? [list, notes], IsWritable (i + 1)) ∧
      ∃ d, build? {} [list, notes] = .ok d ∧
        (∃ entry, d.definition? "footnote-1".toList = some entry) ∧
        ∀ e, render d {} none = .error e →
          (∃ n, e = .malformed (.tooDeep 100) (some n)) ∨
            ∃ cause, e = .rejected cause ∧
              ∃ m, d.Holds m ∧ m.hasTag .raw = true ∧ Html.Refused m.source cause := by
  intro tag mark words paragraph list notes
  have grammatical : Grammatical [list, notes] := by decide
  have short : ∀ i ∈ allIndices Kind.footnoteIndex? [list, notes], IsWritable (i + 1) := by decide
  obtain ⟨d, built, registered, rendered⟩ := (grammatical_renders grammatical).2 short
  obtain ⟨id, entry, named, held⟩ := registered 0 (by decide)
  obtain ⟨_, rfl⟩ := footnoteId_eq_ok.mp named
  exact ⟨grammatical, short, d, built, ⟨entry, held⟩, rendered {} none⟩

theorem build_footnote_long {i : Int} (long : ¬ IsWritable (i + 1)) :
    build (.node (.footnote (some i)) [] []) = .error .longNumber := by
  rw [build, if_neg (by simp), if_pos (by rfl), dropDeniedSpans, buildAll]
  simp only [nodesOf, footnoteId_eq_error.mpr ⟨long, rfl⟩]
  rfl

/-- A footnote whose number is the first one that is too long is not built, and raw HTML that is a
    decimal reference with one digit too many is not rendered. -/
theorem long_numbers_fail :
    let index : Int := firstUnwritable - 1
    let digits := List.replicate (Text.digitLimit + 1) '1'
    let notes : Tree := .node .footnoteBlock [] [.node (.footnote (some index)) [] []]
    let html : Tree := .node .htmlBlock ("&#".toList ++ digits ++ [';']) []
    (Grammatical [notes] ∧ build? {} [notes] = .error .longNumber) ∧
      Grammatical [html] ∧ ∃ d, build? {} [html] = .ok d ∧
        render d {} none = .error (.rejected .longReference) := by
  intro index digits notes html
  have long : ¬ IsWritable (index + 1) := by
    rw [Int.sub_add_cancel]
    exact not_isWritable_first
  have isDigit : ∀ c ∈ digits, c.isDigit = true := by simp [digits]
  have many : Text.digitLimit < digits.length := by simp [digits]
  clear_value index digits
  have one {P : Tree → Prop} {t : Tree} (own : P t) : ∀ n ∈ [t], P n :=
    List.forall_mem_singleton.mpr own
  refine ⟨⟨⟨one rfl, one rfl, nofun⟩, ?_⟩, ⟨one rfl, one rfl, nofun⟩, ?_⟩
  · rw [build?_single (by simp [notes, Tree.kind]), build, if_neg (by decide), if_pos (by rfl),
      dropDeniedSpans_eq_self (one (by simp [Tree.kind])), buildAll_single, build_footnote_long long]
    rfl
  · let raw : Node := .element .raw { format := some "html".toList }
      [.text ("&#".toList ++ digits ++ [';'])]
    let w : Walk := ⟨⟨[raw], []⟩, none, none⟩
    have built : build html = .ok [raw] := by
      rw [build, if_neg (by decide), if_neg (by decide)]
      rfl
    refine ⟨_, (build?_single (by simp [html, Tree.kind])).trans (congrArg _ built),
      render_eq_error.mpr (.inr ⟨rfl, ?_⟩)⟩
    change (Written.andThen ⟨[], none⟩ ((w.write raw).andThen .nothing)).error = _
    rw [write_longReference isDigit many]
    rfl

end Gemtext
