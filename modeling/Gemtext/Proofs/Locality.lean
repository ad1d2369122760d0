import Gemtext.Proofs.Register
import Gemtext.Proofs.Written

/-! # Locality of rendering

A rendered document is the header and the texts of its top-level blocks, one behind another.
The text of a block depends on the block itself, on the clamp of heading levels, and on the
footnote definitions that can be reached from it through chains of references. Documents are
only asked where references point, so it is enough that two documents agree about that.
-/

namespace Gemtext

namespace Document

/-- The footnote references that can be reached from a node: those in its subtree, and those
    in the definitions that such references point to. -/
inductive Reached (d : Document) (n : Node) : Node → Prop where
  | inside {reference : Node} {path : Path} : n.at? path = some reference →
      reference.hasTag .footnoteReference = true → d.Reached n reference
  | behind {reference next : Node} {entry : Definition} {path : Path} :
      d.Reached n reference → d.resolve reference = .ok entry →
      entry.node.at? path = some next → next.hasTag .footnoteReference = true →
      d.Reached n next

/-- Two documents agree about the definitions that can be reached from a node: references
    point to definitions of equal content, or to none in both, and two references point to one
    definition in both or to different ones in both. -/
structure AgreeFrom (d d' : Document) (n : Node) : Prop where
  node : ∀ r, d.Reached n r →
    (d.resolve r).map Definition.node = (d'.resolve r).map Definition.node
  identity : ∀ r s, d.Reached n r → d.Reached n s →
    (d.resolve r = d.resolve s ↔ d'.resolve r = d'.resolve s)

variable {d d' : Document} {n : Node}

theorem AgreeFrom.resolve_error (h : d.AgreeFrom d' n) {r : Node} {e : Error}
    (reached : d.Reached n r) (failed : d.resolve r = .error e) : d'.resolve r = .error e :=
  map_eq_error.mp ((h.node r reached).symm.trans (map_eq_error.mpr failed))

theorem AgreeFrom.resolve_ok (h : d.AgreeFrom d' n) {r : Node} {entry : Definition}
    (reached : d.Reached n r) (resolved : d.resolve r = .ok entry) :
    ∃ entry', d'.resolve r = .ok entry' ∧ entry'.node = entry.node :=
  map_eq_ok.mp ((h.node r reached).symm.trans (map_eq_ok.mpr ⟨entry, resolved, rfl⟩))

theorem Reached.of_child {tag : Tag} {attrs : Attributes} {children : List Node} {c r : Node}
    (member : c ∈ children) (h : d.Reached c r) :
    d.Reached (.element tag attrs children) r := by
  induction h with
  | inside located isNote =>
      obtain ⟨path, found⟩ := Node.at?_child member located
      exact .inside found isNote
  | behind _ resolved located isNote ih => exact .behind ih resolved located isNote

theorem AgreeFrom.of_child {tag : Tag} {attrs : Attributes} {children : List Node} {c : Node}
    (h : d.AgreeFrom d' (.element tag attrs children)) (member : c ∈ children) :
    d.AgreeFrom d' c where
  node r reached := h.node r (reached.of_child member)
  identity r s hr hs := h.identity r s (hr.of_child member) (hs.of_child member)

/-! ## Links -/

/-- In both documents the same definitions are being listed. -/
def SameFollowed (d d' : Document) (n : Node) (followed followed' : List (List (List Char))) :
    Prop :=
  ∀ r entry entry', d.Reached n r → d.resolve r = .ok entry → d'.resolve r = .ok entry' →
    (entry.ids ∈ followed ↔ entry'.ids ∈ followed')

theorem SameFollowed.enter {followed followed' : List (List (List Char))} {r : Node}
    {entry entry' : Definition} (same : SameFollowed d d' n followed followed')
    (agree : d.AgreeFrom d' n) (reached : d.Reached n r) (resolved : d.resolve r = .ok entry)
    (resolved' : d'.resolve r = .ok entry') :
    SameFollowed d d' n (entry.ids :: followed) (entry'.ids :: followed') := by
  intro s other other' hs hother hother'
  have one : other.ids = entry.ids ↔ other'.ids = entry'.ids := by
    have identity := agree.identity s r hs reached
    rw [hother, resolved, hother', resolved', Except.ok.injEq, Except.ok.injEq] at identity
    constructor
    · intro sameIds
      rw [identity.mp (resolve_unique hother resolved sameIds)]
    · intro sameIds
      rw [identity.mpr (resolve_unique hother' resolved' sameIds)]
  rw [List.mem_cons, List.mem_cons, one, same s other other' hs hother hother']

theorem Reached.of_links {r link : Node} {entry : Definition} (h : d.Reached n r)
    (resolved : d.resolve r = .ok entry) (member : link ∈ entry.node.links)
    (isNote : link.hasTag .footnoteReference = true) : d.Reached n link := by
  obtain ⟨path, located, _⟩ := Node.mem_links.mp member
  exact h.behind resolved located isNote

theorem follow_congr (agree : d.AgreeFrom d' n) {followed followed' : List (List (List Char))}
    {links : List Node}
    (reached : ∀ link ∈ links, link.hasTag .footnoteReference = true → d.Reached n link)
    (same : SameFollowed d d' n followed followed') :
    d.follow followed links = d'.follow followed' links := by
  -- The definitions that are being listed may have other ids in the other document, so the
  -- induction carries that the same ones are, and not that the lists of ids are equal.
  fun_induction follow d followed links generalizing followed' with
  | case1 => rw [follow_nil]
  | case2 followed link rest isNote e failed =>
      have first := reached link List.mem_cons_self isNote
      rw [follow_cons_dangling isNote (agree.resolve_error first failed)]
  | case3 followed link rest isNote entry resolved old ih =>
      have first := reached link List.mem_cons_self isNote
      obtain ⟨entry', resolved', _⟩ := agree.resolve_ok first resolved
      have old' := (same link entry entry' first resolved resolved').mp (by simpa using old)
      rw [follow_cons_followed isNote resolved' old',
        ih (fun l member => reached l (List.mem_cons_of_mem link member)) same]
  | case4 followed link rest isNote entry resolved fresh e failed ih =>
      have first := reached link List.mem_cons_self isNote
      obtain ⟨entry', resolved', sameNode⟩ := agree.resolve_ok first resolved
      have fresh' := mt (same link entry entry' first resolved resolved').mpr (by simpa using fresh)
      have inside := ih (fun l member => first.of_links resolved member)
        (same.enter agree first resolved resolved')
      rw [follow_cons_enter isNote resolved' fresh', sameNode, ← inside, failed]
      rfl
  | case5 followed link rest isNote entry resolved fresh found listed ihInside ih =>
      have first := reached link List.mem_cons_self isNote
      obtain ⟨entry', resolved', sameNode⟩ := agree.resolve_ok first resolved
      have fresh' := mt (same link entry entry' first resolved resolved').mpr (by simpa using fresh)
      have inside := ihInside (fun l member => first.of_links resolved member)
        (same.enter agree first resolved resolved')
      rw [follow_cons_enter isNote resolved' fresh', sameNode, ← inside, listed,
        ih (fun l member => reached l (List.mem_cons_of_mem link member)) same]
      rfl
  | case6 followed link rest plain ih =>
      rw [follow_cons_plain (by simpa using plain),
        ih (fun l member => reached l (List.mem_cons_of_mem link member)) same]

theorem links_congr (agree : d.AgreeFrom d' n) : d.links n = d'.links n := by
  refine follow_congr agree (fun link member isNote => ?_) fun _ _ _ _ _ _ => by simp
  obtain ⟨path, located, _⟩ := Node.mem_links.mp member
  exact .inside located isNote

/-- The footnote references among listed links are reached. -/
theorem reached_of_follow {followed : List (List (List Char))} {links found : List Node}
    (reached : ∀ link ∈ links, link.hasTag .footnoteReference = true → d.Reached n link)
    (listed : d.follow followed links = .ok found) :
    ∀ link ∈ found, link.hasTag .footnoteReference = true → d.Reached n link := by
  fun_induction follow d followed links generalizing found with
  | case1 =>
      cases listed
      simp
  | case2 followed link rest isNote e failed => cases listed
  | case3 followed link rest isNote entry resolved old ih =>
      obtain ⟨more, behind, rfl⟩ := map_eq_ok.mp listed
      exact List.forall_mem_cons.mpr ⟨reached link List.mem_cons_self,
        ih (fun l member => reached l (List.mem_cons_of_mem link member)) behind⟩
  | case4 followed link rest isNote entry resolved fresh e failed ih => cases listed
  | case5 followed link rest isNote entry resolved fresh inner inside ihInside ih =>
      obtain ⟨more, behind, rfl⟩ := map_eq_ok.mp listed
      have first := reached link List.mem_cons_self
      refine List.forall_mem_cons.mpr ⟨first, List.forall_mem_append.mpr ⟨?_, ?_⟩⟩
      · exact ihInside (fun l member => (first isNote).of_links resolved member) inside
      · exact ih (fun l member => reached l (List.mem_cons_of_mem link member)) behind
  | case6 followed link rest plain ih =>
      obtain ⟨more, behind, rfl⟩ := map_eq_ok.mp listed
      exact List.forall_mem_cons.mpr ⟨reached link List.mem_cons_self,
        ih (fun l member => reached l (List.mem_cons_of_mem link member)) behind⟩

theorem reached_of_links {found : List Node} (listed : d.links n = .ok found) :
    ∀ link ∈ found, link.hasTag .footnoteReference = true → d.Reached n link := by
  refine reached_of_follow (fun link member isNote => ?_) listed
  obtain ⟨path, located, _⟩ := Node.mem_links.mp member
  exact .inside located isNote

end Document

/-! ## Link blocks -/

section LinkBlock

variable {d d' : Document} {n : Node}

theorem linkLine_congr (agree : d.AgreeFrom d' n) {link : Node}
    (reached : link.hasTag .footnoteReference = true → d.Reached n link) :
    linkLine d link = linkLine d' link := by
  unfold linkLine
  by_cases isNote : link.hasTag .footnoteReference = true
  · rw [if_pos isNote, if_pos isNote]
    cases resolved : d.resolve link with
    | error e => rw [agree.resolve_error (reached isNote) resolved]
    | ok entry =>
        obtain ⟨entry', resolved', sameNode⟩ := agree.resolve_ok (reached isNote) resolved
        rw [resolved']
        simp only [sameNode]
  · rw [if_neg isNote, if_neg isNote]

theorem linkLines_congr (agree : d.AgreeFrom d' n) {links : List Node}
    (reached : ∀ link ∈ links, link.hasTag .footnoteReference = true → d.Reached n link) :
    linkLines d links = linkLines d' links := by
  induction links with
  | nil => rfl
  | cons link rest ih =>
      rw [linkLines, linkLines, linkLine_congr agree (reached link List.mem_cons_self),
        ih fun l member => reached l (List.mem_cons_of_mem link member)]

theorem linkGroup_congr (agree : d.AgreeFrom d' n) {links : List Node}
    (reached : ∀ link ∈ links, link.hasTag .footnoteReference = true → d.Reached n link)
    (kind : Tag) : linkGroup d links kind = linkGroup d' links kind := by
  rw [linkGroup, linkGroup, linkLines_congr agree fun link member =>
    reached link (List.mem_filter.mp member).1]

/-- Documents that agree about what is reached from a node write the same link block. -/
theorem linkBlock_congr (agree : d.AgreeFrom d' n) : linkBlock d n = linkBlock d' n := by
  unfold linkBlock
  rw [← Document.links_congr agree]
  cases listed : d.links n with
  | error e => rfl
  | ok links =>
      simp only [linkGroup_congr agree (Document.reached_of_links listed)]

end LinkBlock

/-! ## Walks -/

/-- No document node stands in a tree. One that does would write the header again. -/
def Node.HoldsNoDocument (n : Node) : Prop :=
  ∀ path m, n.at? path = some m → m.hasTag .document = false

theorem Node.HoldsNoDocument.of_child {tag : Tag} {attrs : Attributes} {children : List Node}
    {c : Node} (h : (Node.element tag attrs children).HoldsNoDocument) (member : c ∈ children) :
    c.HoldsNoDocument := by
  intro path m located
  obtain ⟨path', found⟩ := Node.at?_child member located
  exact h path' m found

theorem writeAll_congr {w w' : Walk} {children : List Node}
    (ih : ∀ c ∈ children, w.write c = w'.write c) : w.writeAll children = w'.writeAll children := by
  induction children with
  | nil => rfl
  | cons c rest tail =>
      rw [Walk.writeAll, Walk.writeAll, ih c List.mem_cons_self,
        tail fun m member => ih m (List.mem_cons_of_mem c member)]

/-- Walks with one clamp write the same of a node if their documents agree about what is
    reached from it. -/
theorem write_congr {w w' : Walk} {n : Node} (clamp : w.clamp = w'.clamp)
    (agree : w.document.AgreeFrom w'.document n)
    (header : w.metadata = w'.metadata ∨ n.HoldsNoDocument) : w.write n = w'.write n := by
  induction n using Node.rec_strong with
  | text t => rfl
  | element tag attrs children ih =>
      have inside : w.writeAll children = w'.writeAll children :=
        writeAll_congr fun c member => ih c member (agree.of_child member)
          (header.imp_right fun none => none.of_child member)
      have links := linkBlock_congr agree
      cases tag with
      | document =>
          have same : w.metadata = w'.metadata :=
            header.resolve_right fun none => Bool.noConfusion (none [] _ rfl)
          rw [Walk.write, Walk.write, inside, same]
      | heading => rw [Walk.write, Walk.write, clamp]
      | blockQuote => rw [Walk.write, Walk.write, links]
      | bulletList => rw [Walk.write, Walk.write, links]
      | enumeratedList => rw [Walk.write, Walk.write, links]
      | definitionList => rw [Walk.write, Walk.write, links]
      | paragraph => rw [Walk.write, Walk.write, links]
      | table => rw [Walk.write, Walk.write, links]
      | footnote | listItem | literalBlock | raw | transition => rfl
      | _ => exact inside

/-! ## Blocks by themselves -/

/-- What a walk over a node writes on an empty page. -/
def Document.alone (d : Document) (settings : Settings) (metadata : Option Metadata) (n : Node) :
    Written :=
  let walked := (Page.begin settings metadata).walk d n
  ⟨walked.1.body, walked.2⟩

theorem alone_eq_write (d : Document) (settings : Settings) (metadata : Option Metadata)
    (n : Node) :
    d.alone settings metadata n = Walk.write ⟨d, metadata, settings.maxHeadingLevel⟩ n := rfl

theorem writeAll_error_eq_none {w : Walk} {children : List Node} :
    (w.writeAll children).error = none ↔ ∀ c ∈ children, (w.write c).error = none := by
  induction children with
  | nil => simp [Walk.writeAll, Written.nothing]
  | cons c rest ih =>
      rw [Walk.writeAll, Written.andThen_error_eq_none, ih, List.forall_mem_cons]

theorem writeAll_text {w : Walk} {children : List Node}
    (ok : (w.writeAll children).error = none) :
    (w.writeAll children).text = children.flatMap fun c => (w.write c).text := by
  induction children with
  | nil => rfl
  | cons c rest ih =>
      obtain ⟨first, behind⟩ := Written.andThen_error_eq_none.mp ok
      rw [Walk.writeAll, Written.andThen_text_of_ok first, ih behind, List.flatMap_cons]

/-- A document renders exactly if it is not too deep and each of its blocks can be written by
    itself, to the header and the texts of the blocks. -/
theorem render_eq_ok_iff_alone {d : Document} {settings : Settings} {metadata : Option Metadata}
    {t : List Char} :
    render d settings metadata = .ok t ↔ d.checkDepth settings.maxNestingDepth = .ok () ∧
      (∀ c ∈ d.children, (d.alone settings metadata c).error = none) ∧
      t = Text.endOnce ((metadata.map Metadata.header).getD [] ++
        d.children.flatMap fun c => (d.alone settings metadata c).text) := by
  rw [render_eq_ok]
  refine and_congr_right fun _ => ?_
  have root (w : Walk) : w.write d.root =
      Written.andThen ⟨(w.metadata.map Metadata.header).getD [], none⟩ (w.writeAll d.children) := rfl
  rw [root, Written.andThen_error_eq_none, writeAll_error_eq_none]
  simp only [true_and, alone_eq_write]
  refine and_congr_right fun each => ?_
  rw [Written.andThen_text_of_ok rfl, writeAll_text (writeAll_error_eq_none.mpr each)]
  exact eq_comm

/-! ## Exchanging a block -/

namespace Document

theorem resolve_of_definitions {d d' : Document} (same : d.definitions = d'.definitions) (r : Node) :
    d.resolve r = d'.resolve r := by
  simp only [resolve, funext fun id => show d.definition? id = d'.definition? id by
    simp only [definition?, same]]

theorem AgreeFrom.of_definitions {d d' : Document} (same : d.definitions = d'.definitions)
    (n : Node) : d.AgreeFrom d' n where
  node r _ := by rw [resolve_of_definitions same]
  identity r s _ _ := by rw [resolve_of_definitions same, resolve_of_definitions same]

end Document

theorem alone_of_definitions {d d' : Document} (same : d.definitions = d'.definitions)
    (settings : Settings) (metadata : Option Metadata) (n : Node) :
    d.alone settings metadata n = d'.alone settings metadata n := by
  rw [alone_eq_write, alone_eq_write]
  exact write_congr rfl (.of_definitions same n) (.inl rfl)

/-- Rendering is local to the blocks of a document. A document that is not too deep renders
    exactly if each block can be written by itself, to the header and the texts of the blocks. The
    text of a block is the same in documents that agree about what is reached from it, if the
    heading levels are clamped alike and the header is the same or not in the block. So the other
    blocks keep their texts when a block without footnote definitions is exchanged for another
    one, in its place or before the document is put together. -/
theorem render_local :
    (∀ d settings metadata t, render d settings metadata = .ok t ↔
      d.checkDepth settings.maxNestingDepth = .ok () ∧
        (∀ c ∈ d.children, (d.alone settings metadata c).error = none) ∧
        t = Text.endOnce ((metadata.map Metadata.header).getD [] ++
          d.children.flatMap fun c => (d.alone settings metadata c).text)) ∧
    (∀ (d d' : Document) (c : Node) (settings settings' : Settings)
      (metadata metadata' : Option Metadata),
      settings.maxHeadingLevel = settings'.maxHeadingLevel → d.AgreeFrom d' c →
      metadata = metadata' ∨ c.HoldsNoDocument →
      d.alone settings metadata c = d'.alone settings' metadata' c) ∧
    ∀ c c' : Node, c.HoldsNoFootnote → c'.HoldsNoFootnote → ∀ settings metadata other,
      (∀ (d : Document) (i : Nat), d.Registered → d.children[i]? = some c →
        (d.modifyAt [i] fun _ => c').alone settings metadata other =
          d.alone settings metadata other) ∧
      ∀ (d : Document) (before behind : List Node),
        ((before ++ c' :: behind).foldl Document.append d).alone settings metadata other =
          ((before ++ c :: behind).foldl Document.append d).alone settings metadata other ∧
        (d.appendBuilt (before ++ c' :: behind)).alone settings metadata other =
          (d.appendBuilt (before ++ c :: behind)).alone settings metadata other := by
  refine ⟨fun d settings metadata t => render_eq_ok_iff_alone, ?_, ?_⟩
  · intro d d' c settings settings' metadata metadata' clamp agree header
    rw [alone_eq_write, alone_eq_write]
    exact write_congr clamp agree header
  · intro c c' none none' settings metadata other
    refine ⟨fun d i registered located => ?_, fun d before behind => ⟨?_, ?_⟩⟩
    · exact alone_of_definitions (Document.modifyAt_definitions registered located none c') ..
    · exact alone_of_definitions (Document.appendAll_exchange none' none d before behind) ..
    · exact alone_of_definitions (Document.appendBuilt_exchange none' none d before behind) ..

/-- The text of a block that refers to a footnote is the same in a document that has another
    footnote too, and behind another block. -/
theorem render_local_footnote :
    let note : Node := .element .footnote { ids := [['a']], noteid := some 1 } []
    let more : Node := .element .footnote { ids := [['b']], noteid := some 2 } []
    let mark : Node := .element .footnoteReference { refid := some ['a'], noteid := some 1 } []
    let block : Node := .element .paragraph {} [mark]
    let old : Node := .element .paragraph {} [.text ['x']]
    let new : Node := .element .transition {} []
    let d := Document.ofChildren [old, block, note]
    d.alone {} none block = (Document.ofChildren [block, more, note]).alone {} none block ∧
      (d.modifyAt [0] fun _ => new).alone {} none block = d.alone {} none block := by
  intro note more mark block old new d
  have resolved : d.resolve mark = .ok ⟨[['a']], some [2], note⟩ :=
    Document.resolve_eq_ok.mpr ⟨['a'], rfl, by decide⟩
  have resolved' : (Document.ofChildren [block, more, note]).resolve mark =
      .ok ⟨[['a']], some [2], note⟩ :=
    Document.resolve_eq_ok.mpr ⟨['a'], rfl, by decide⟩
  have one (r : Node) (reached : d.Reached block r) : r = mark := by
    induction reached with
    | inside located isNote =>
        have member := Node.mem_filter.mpr ⟨_, located, isNote⟩
        have only : block.filter (·.hasTag .footnoteReference) = [mark] := by decide
        exact List.mem_singleton.mp (only ▸ member)
    | behind _ found located isNote ih =>
        rw [ih, resolved] at found
        obtain rfl := Except.ok.inj found
        have member := Node.mem_filter.mpr ⟨_, located, isNote⟩
        have only : note.filter (·.hasTag .footnoteReference) = [] := by decide
        rw [only] at member
        cases member
  have agree : d.AgreeFrom (Document.ofChildren [block, more, note]) block := by
    constructor
    · intro r reached
      rw [one r reached, resolved, resolved']
    · intro r s hr hs
      rw [one r hr, one s hs]
      exact iff_of_true rfl rfl
  have registered : d.Registered :=
    ((Document.registered_empty.append old).append block).append note
  refine ⟨render_local.2.1 _ _ block {} {} none none rfl agree (.inl rfl), ?_⟩
  exact (render_local.2.2 old new (by decide) (by decide) {} none block).1 d 0 registered rfl

end Gemtext
