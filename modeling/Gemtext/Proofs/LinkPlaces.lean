import Mathlib.Data.Set.Function
import Gemtext.Document.OfMarkdown
import Gemtext.Proofs.LinkLines

/-! # The places of links

Every link of a block has a line of its own behind the block. Where a line begins in a text is its
place, and different links have different places, also when they are equal. This is said of a list
of links, so that it can be followed from the groups of a link block to the block and to the page.
-/

namespace Gemtext

open Text

/-! ## Lines of a text -/

/-- Behind this many characters of a text a line begins that reads like this, or several lines if
    there are line feeds in it. -/
def StandsAt (t : List Char) (place : Nat) (line : List Char) : Prop :=
  ∃ before behind, before.length = place ∧ t = before ++ line ++ '\n' :: behind ∧ EndsLine before

namespace StandsAt

variable {s t line : List Char} {place : Nat}

theorem lt_length (h : StandsAt t place line) : place < t.length := by
  obtain ⟨before, behind, rfl, rfl, _⟩ := h
  simp only [List.length_append, List.length_cons]
  omega

theorem append_right (h : StandsAt s place line) (t : List Char) :
    StandsAt (s ++ t) place line := by
  obtain ⟨before, behind, size, rfl, starts⟩ := h
  exact ⟨before, behind ++ t, size, by simp, starts⟩

theorem append_left (ends : EndsLine s) (h : StandsAt t place line) :
    StandsAt (s ++ t) (s.length + place) line := by
  obtain ⟨before, behind, rfl, rfl, starts⟩ := h
  exact ⟨s ++ before, behind, by simp, by simp, ends.append starts⟩

/-- The line feeds that go at the end of a finished page do not take a line away. -/
theorem endOnce (h : StandsAt t place line) (one : '\n' ∉ line) (some : line ≠ []) :
    StandsAt (Text.endOnce t) place line := by
  obtain ⟨before, behind, size, rfl, starts⟩ := h
  unfold Text.endOnce
  split
  · have stays : (line.reverse ++ before.reverse).dropWhile (· == '\n') =
        line.reverse ++ before.reverse := by
      cases line using List.reverseRec with
      | nil => exact absurd rfl some
      | append_singleton front c =>
          have other : c ≠ '\n' := fun same => one (by simp [same])
          simp [other]
    have whole : (before ++ line ++ '\n' :: behind).reverse =
        behind.reverse ++ '\n' :: (line.reverse ++ before.reverse) := by simp
    rw [dropEndBreaks, dropEndWhile, whole, List.dropWhile_append]
    split
    · exact ⟨before, [], size, by simp [stays], starts⟩
    · exact ⟨before, (behind.reverse.dropWhile (· == '\n')).reverse ++ ['\n'], size, by simp,
        starts⟩
  · exact ⟨before, behind, size, rfl, starts⟩

end StandsAt

/-- A text has this line, which holds no line feed. -/
def HasLine (t line : List Char) : Prop :=
  '\n' ∉ line ∧ ∃ before behind, t = before ++ line ++ '\n' :: behind ∧ EndsLine before

theorem hasLine_iff {t line : List Char} :
    HasLine t line ↔ '\n' ∉ line ∧ ∃ place, StandsAt t place line :=
  and_congr_right fun _ => ⟨fun ⟨before, behind, here⟩ => ⟨_, before, behind, rfl, here⟩,
    fun ⟨_, before, behind, _, here⟩ => ⟨before, behind, here⟩⟩

theorem StandsAt.hasLine {t line : List Char} {place : Nat} (h : StandsAt t place line)
    (one : '\n' ∉ line) : HasLine t line :=
  hasLine_iff.mpr ⟨one, place, h⟩

/-- A text has a line for each of these, all of them at different places, also where several of
    these are equal and so are their lines. -/
def HaveLines {α : Type} (R : α → List Char → Prop) (t : List Char) (xs : List α) : Prop :=
  ∃ places : List Nat, places.Nodup ∧
    List.Forall₂ (fun x place => ∃ line, R x line ∧ StandsAt t place line) xs places

namespace HaveLines

variable {α : Type} {R : α → List Char → Prop} {s t : List Char} {xs ys : List α}

theorem nil (t : List Char) : HaveLines R t [] := ⟨[], .nil, .nil⟩

/-- The lines of two texts, one of which ends where a line begins. -/
theorem append (own : HaveLines R s xs) (ends : EndsLine s) (more : HaveLines R t ys) :
    HaveLines R (s ++ t) (xs ++ ys) := by
  obtain ⟨places, distinct, each⟩ := own
  obtain ⟨later, laterDistinct, laterEach⟩ := more
  have below : ∀ place ∈ places, place < s.length := by
    intro place member
    obtain ⟨_, _, _, _, stands⟩ := forall₂_exists each.flip member
    exact stands.lt_length
  refine ⟨places ++ later.map (s.length + ·), ?_, List.rel_append ?_ ?_⟩
  · refine distinct.append (laterDistinct.map fun _ _ => Nat.add_left_cancel) ?_
    intro place early late
    obtain ⟨_, _, rfl⟩ := List.mem_map.mp late
    have := below _ early
    omega
  · exact each.imp fun x place ⟨line, own, stands⟩ => ⟨line, own, stands.append_right t⟩
  · exact List.forall₂_map_right_iff.mpr
      (laterEach.imp fun x place ⟨line, own, stands⟩ => ⟨line, own, stands.append_left ends⟩)

theorem append_right (own : HaveLines R s xs) (t : List Char) : HaveLines R (s ++ t) xs := by
  obtain ⟨places, distinct, each⟩ := own
  exact ⟨places, distinct,
    each.imp fun _ _ ⟨line, own, stands⟩ => ⟨line, own, stands.append_right t⟩⟩

theorem of_subperm (h : HaveLines R t xs) (fewer : ys.Subperm xs) : HaveLines R t ys := by
  obtain ⟨front, same, part⟩ := fewer
  obtain ⟨rest, all⟩ := part.exists_perm_append
  obtain ⟨places, distinct, each⟩ := h
  obtain ⟨moved, related, perm⟩ :=
    List.perm_comp_forall₂ ((same.symm.append_right rest).trans all.symm) each
  refine ⟨moved.take ys.length, (perm.nodup_iff.mpr distinct).sublist (List.take_sublist _ _), ?_⟩
  simpa using List.forall₂_take ys.length related

theorem lines {lines : List (List Char)} (each : List.Forall₂ R xs lines) :
    HaveLines R (lines.flatMap (· ++ ['\n'])) xs := by
  induction each with
  | nil => exact .nil _
  | @cons x line xs lines own _ ih =>
      have one : HaveLines R (line ++ ['\n']) [x] :=
        ⟨[0], by simp, .cons ⟨line, own, [], [], rfl, by simp, .nil⟩ .nil⟩
      exact one.append (.of_suffix (List.suffix_refl _)) ih

theorem lineGroup {lines : List (List Char)} (each : List.Forall₂ R xs lines) :
    HaveLines R (lineGroup lines) xs := by
  have whole := HaveLines.lines each
  unfold Gemtext.lineGroup
  split
  · next none =>
    obtain rfl := List.isEmpty_iff.mp none
    exact whole
  · exact whole.append_right _

theorem exists_of_mem (h : HaveLines R t xs) {x : α} (member : x ∈ xs) :
    ∃ line place, R x line ∧ StandsAt t place line := by
  obtain ⟨_, _, each⟩ := h
  obtain ⟨place, _, line, own, stands⟩ := forall₂_exists each member
  exact ⟨line, place, own, stands⟩

/-- What is found at different paths has lines at different places. -/
theorem place {found : List (Path × α)} (distinct : (found.map Prod.fst).Nodup)
    (h : HaveLines R t (found.map Prod.snd)) :
    ∃ place : Path → Nat, Set.InjOn place {path | path ∈ found.map Prod.fst} ∧
      ∀ path x, (path, x) ∈ found → ∃ line, R x line ∧ StandsAt t (place path) line := by
  obtain ⟨places, apart, each⟩ := h
  have size : found.length = places.length := by simpa using each.length_eq
  let index (path : Path) := (found.map Prod.fst).idxOf path
  have bound {path : Path} (member : path ∈ found.map Prod.fst) : index path < places.length := by
    simpa [← size] using List.idxOf_lt_length_of_mem member
  have here {path : Path} (member : path ∈ found.map Prod.fst) :
      places.getD (index path) 0 = places.get ⟨index path, bound member⟩ := by
    simp [List.getD, bound member]
  refine ⟨fun path => places.getD (index path) 0, ?_, ?_⟩
  · intro path first other second same
    simp only [here first, here second, apart.get_inj_iff, Fin.mk.injEq] at same
    exact (List.idxOf_inj first).mp same
  · intro path x member
    obtain ⟨i, inside, same⟩ := List.getElem_of_mem member
    have atIndex : index path = i := by
      have := distinct.idxOf_getElem i (by simpa using inside)
      simpa [same] using this
    have own := each.get (by simpa using inside) (size ▸ inside)
    simpa [same, atIndex, size ▸ inside] using own

end HaveLines

/-! ## Every link has its line -/

/-- The links of a subtree that go somewhere, each with its path. -/
def Node.shown (n : Node) : List (Path × Node) :=
  (n.positions (·.tagIs Tag.isLink)).filter fun found => !found.2.leadsNowhere

namespace Node

theorem mem_shown {n link : Node} {path : Path} : (path, link) ∈ n.shown ↔
    (n.at? path = some link ∧ link.tagIs Tag.isLink = true) ∧ link.leadsNowhere = false := by
  rw [shown, List.mem_filter, mem_positions]
  simp

theorem shown_map_snd (n : Node) :
    n.shown.map Prod.snd = n.links.filter fun link => !link.leadsNowhere := by
  rw [links, ← positions_map_snd, List.filter_map]
  rfl

theorem shown_distinct (n : Node) : (n.shown.map Prod.fst).Nodup := by
  refine List.pairwise_map.mpr (((positions_sorted _ n).filter _).imp fun earlier same => ?_)
  exact List.lt_irrefl _ (same ▸ earlier)

end Node


namespace Document

variable {d : Document} {followed : List (List (List Char))} {links found : List Node}

theorem sublist_follow (listed : d.follow followed links = .ok found) : links.Sublist found := by
  fun_induction follow d followed links generalizing found with
  | case1 => simp
  | case2 followed link rest isNote e failed => cases listed
  | case3 followed link rest isNote entry resolved old ih =>
      obtain ⟨more, behind, rfl⟩ := map_eq_ok.mp listed
      exact (ih behind).cons_cons link
  | case4 followed link rest isNote entry resolved fresh e failed ih => cases listed
  | case5 followed link rest isNote entry resolved fresh inside inner ihInside ih =>
      obtain ⟨more, behind, rfl⟩ := map_eq_ok.mp listed
      exact ((ih behind).trans (List.sublist_append_right _ _)).cons_cons link
  | case6 followed link rest plain ih =>
      obtain ⟨more, behind, rfl⟩ := map_eq_ok.mp listed
      exact (ih behind).cons_cons link

theorem subset_follow (listed : d.follow followed links = .ok found) : links ⊆ found :=
  (sublist_follow listed).subset

/-- Behind a listed reference, the links of its definition are listed too, unless the definition
    was being listed before. -/
theorem follow_closed (listed : d.follow followed links = .ok found) {reference : Node}
    (member : reference ∈ found) (isNote : reference.hasTag .footnoteReference = true)
    {entry : Definition} (resolved : d.resolve reference = .ok entry)
    (fresh : entry.ids ∉ followed) : entry.node.links ⊆ found := by
  fun_induction follow d followed links generalizing found with
  | case1 =>
      cases listed
      cases member
  | case2 followed link rest _ e failed => cases listed
  | case3 followed link rest _ other points old ih =>
      obtain ⟨more, behind, rfl⟩ := map_eq_ok.mp listed
      rcases List.mem_cons.mp member with rfl | later
      · obtain rfl := Except.ok.inj (points.symm.trans resolved)
        exact absurd (by simpa using old) fresh
      · exact List.subset_cons_of_subset link (ih behind later fresh)
  | case4 followed link rest _ other points _ e failed ih => cases listed
  | case5 followed link rest _ other points _ inside inner ihInside ih =>
      obtain ⟨more, behind, rfl⟩ := map_eq_ok.mp listed
      have within : inside ⊆ link :: (inside ++ more) :=
        List.subset_cons_of_subset link (List.subset_append_left _ _)
      -- The definition that is entered here is listed from its own links on.
      have entered : entry.ids = other.ids → entry.node.links ⊆ inside := by
        intro same
        obtain rfl := resolve_unique resolved points same
        exact subset_follow inner
      rcases List.mem_cons.mp member with rfl | later
      · obtain rfl := Except.ok.inj (points.symm.trans resolved)
        exact List.Subset.trans (entered rfl) within
      · rcases List.mem_append.mp later with below | later
        · by_cases same : entry.ids = other.ids
          · exact List.Subset.trans (entered same) within
          · exact List.Subset.trans (ihInside inner below (by simp [same, fresh])) within
        · exact List.subset_cons_of_subset link
            (List.subset_append_of_subset_right _ (ih behind later fresh))
  | case6 followed link rest plain ih =>
      obtain ⟨more, behind, rfl⟩ := map_eq_ok.mp listed
      rcases List.mem_cons.mp member with rfl | later
      · exact absurd isNote plain
      · exact List.subset_cons_of_subset link (ih behind later fresh)

theorem Reached.isNote {n r : Node} (h : d.Reached n r) : r.hasTag .footnoteReference = true := by
  cases h with
  | inside _ isNote => exact isNote
  | behind _ _ _ isNote => exact isNote

/-- Every footnote reference that is reached from a node is among its links. -/
theorem mem_links_of_reached {n r : Node} (listed : d.links n = .ok links) (h : d.Reached n r) :
    r ∈ links := by
  induction h with
  | inside located isNote =>
      exact subset_follow listed
        (Node.mem_links.mpr ⟨_, located, Node.tagIs_of_hasTag isNote rfl⟩)
  | behind reached resolved located isNote ih =>
      exact follow_closed listed ih reached.isNote resolved (by simp)
        (Node.mem_links.mpr ⟨_, located, Node.tagIs_of_hasTag isNote rfl⟩)

/-- The links that have a line are those of the three kinds. -/
theorem perm_shownLinks {own : List Node} (isLink : ∀ link ∈ own, link.tagIs Tag.isLink = true) :
    (own.filter fun link => !link.leadsNowhere).Perm (shownLinks .footnoteReference own ++
      shownLinks .image own ++ shownLinks .reference own) := by
  induction own with
  | nil => rfl
  | cons link rest ih =>
      obtain ⟨first, behind⟩ := List.forall_mem_cons.mp isLink
      have same := ih behind
      cases nowhere : link.leadsNowhere with
      | true => simpa [shownLinks, nowhere] using same
      | false =>
          have kept (kind : Tag) : shownLinks kind (link :: rest) =
              if link.hasTag kind then link :: shownLinks kind rest else shownLinks kind rest := by
            simp [shownLinks, List.filter_cons, nowhere]
          have front := same.cons link
          rw [List.filter_cons_of_pos (by simp [nowhere]), kept, kept, kept]
          cases link with
          | text t => cases first
          | element tag attrs children =>
              cases tag with
              | footnoteReference => exact front
              | image => exact front.trans (List.perm_middle.symm.append_right _)
              | reference => exact front.trans List.perm_middle.symm
              | _ => cases first

/-- The links of a block have lines of their own in the link block of it. -/
theorem LinkBlockOf.haveLines {n : Node} {t : List Char} (h : d.LinkBlockOf n t)
    (listed : d.links n = .ok links) {own : List Node} (part : own.Sublist links)
    (isLink : ∀ link ∈ own, link.tagIs Tag.isLink = true) :
    HaveLines d.LineOf t (own.filter fun link => !link.leadsNowhere) := by
  obtain ⟨links', notes, images, references, listed', ofNotes, ofImages, ofReferences, rfl⟩ := h
  obtain rfl := Except.ok.inj (listed'.symm.trans listed)
  have all := (((HaveLines.lineGroup ofNotes).append (lineGroup_endsLine notes)
    (.lineGroup ofImages)).append ((lineGroup_endsLine notes).append (lineGroup_endsLine images))
      (.lineGroup ofReferences))
  have kinds (kind : Tag) : (shownLinks kind own).Sublist (shownLinks kind links') := part.filter _
  exact all.of_subperm ((perm_shownLinks isLink).subperm.trans
    (((kinds _).append (kinds _)).append (kinds _)).subperm)

/-- Each listed link has its line in the link block. -/
theorem LinkBlockOf.hasLine {n link : Node} {t : List Char} (h : d.LinkBlockOf n t)
    (listed : d.links n = .ok links) (member : link ∈ links)
    (isLink : link.tagIs Tag.isLink = true) (goes : link.leadsNowhere = false)
    (plain : ∀ uri, link.destination? = some uri → '\n' ∉ uri) :
    ∃ line, d.LineOf link line ∧ line ≠ [] ∧ HasLine t line := by
  have own := h.haveLines listed (List.singleton_sublist.mpr member) (by simpa using isLink)
  obtain ⟨line, _, lineOf, stands⟩ := own.exists_of_mem (x := link) (by simp [goes])
  obtain ⟨one, some⟩ := lineOf.one_line plain
  exact ⟨line, lineOf, some, stands.hasLine one⟩

end Document

/-- The blocks that a Markdown text consists of, besides preformatted text, raw HTML and rules. -/
def Tag.standsAtTop : Tag → Bool
  | heading | footnote => true
  | tag => tag.hoists

/-- What is written in front of a block of the document. -/
def Walk.front (w : Walk) (index : Nat) : List Char :=
  (w.metadata.map Metadata.header).getD [] ++
    (w.document.children.take index).flatMap fun c => (w.write c).text

theorem Walk.front_endsLine (w : Walk) (index : Nat) : EndsLine (w.front index) := by
  refine (header_settled w.metadata).endsLine.append ?_
  induction w.document.children.take index with
  | nil => exact .nil
  | cons c rest ih => exact (write_tidy w c).endsLine.append ih

/-- A block is written in front of the blocks that come later. -/
theorem Walk.front_length_le (w : Walk) {i j : Nat} (later : i < j) {c : Node}
    (child : w.document.children[i]? = some c) :
    (w.front i).length + (w.write c).text.length ≤ (w.front j).length := by
  have split : w.document.children.take (i + 1) = w.document.children.take i ++ [c] := by
    rw [List.take_add_one, child]
    rfl
  obtain ⟨between, whole⟩ : w.document.children.take (i + 1) <+: w.document.children.take j :=
    List.take_prefix_take_left (by omega)
  rw [front, front, ← whole, split]
  simp only [List.flatMap_append, List.flatMap_singleton, List.length_append]
  omega

/-- The place of what stands at a path in a block of the document, when it is known which place it
    has in what is written for the block. -/
def Walk.place (w : Walk) (inBlock : Node → Path → Nat) : Path → Nat
  | [] => 0
  | i :: path => (w.front i).length + w.document.children[i]?.elim 0 fun c => inBlock c path

theorem Walk.place_cons {w : Walk} {i : Nat} {c : Node} (child : w.document.children[i]? = some c)
    (inBlock : Node → Path → Nat) (path : Path) :
    w.place inBlock (i :: path) = (w.front i).length + inBlock c path := by
  rw [place, child]
  rfl

/-- In different blocks the places are different. -/
theorem Walk.place_index {w : Walk} {inBlock : Node → Path → Nat} {i j : Nat} {c c' : Node}
    {path path' : Path} (child : w.document.children[i]? = some c)
    (child' : w.document.children[j]? = some c')
    (inside : inBlock c path < (w.write c).text.length)
    (inside' : inBlock c' path' < (w.write c').text.length)
    (same : w.place inBlock (i :: path) = w.place inBlock (j :: path')) : i = j := by
  rw [place_cons child, place_cons child'] at same
  rcases Nat.lt_trichotomy i j with before | equal | behind
  · have := w.front_length_le before child
    omega
  · exact equal
  · have := w.front_length_le behind child'
    omega

/-- A block of a rendered document, behind what is written in front of it. -/
theorem render_split {d : Document} {settings : Settings} {metadata : Option Metadata}
    {t : List Char} (rendered : render d settings metadata = .ok t) {i : Nat} {c : Node}
    (child : d.children[i]? = some c) :
    let w : Walk := ⟨d, metadata, settings.maxHeadingLevel⟩
    (w.write c).error = none ∧ ∃ rest, t = endOnce (w.front i ++ ((w.write c).text ++ rest)) := by
  intro w
  obtain ⟨_, each, same⟩ := render_eq_ok_iff_alone.mp rendered
  simp only [alone_eq_write] at each same
  refine ⟨each c (List.mem_of_getElem? child),
    (d.children.drop (i + 1)).flatMap fun c => (w.write c).text, same.trans (congrArg endOnce ?_)⟩
  obtain ⟨inside, rfl⟩ := List.getElem?_eq_some_iff.mp child
  have split := List.take_append_drop i d.children
  rw [List.drop_eq_getElem_cons inside] at split
  have whole : d.children.flatMap (fun c => (w.write c).text) = _ :=
    congrArg (List.flatMap fun c => (w.write c).text) split.symm
  change _ ++ d.children.flatMap (fun c => (w.write c).text) = _
  rw [whole, List.flatMap_append, List.flatMap_cons, Walk.front, List.append_assoc]

/-- A block that hoists its links is written with its link block behind it. -/
theorem Walk.write_hoisting {w : Walk} {c : Node} (hoists : c.tagIs Tag.hoists = true)
    (ok : (w.write c).error = none) : ∃ block, w.document.LinkBlockOf c block ∧
      (w.write c).text = (w.bare c).text ++ block := by
  have parts : w.write c = (w.bare c).andThen (linkBlock w.document c) := by
    rw [Walk.write_block (.inr (.inl hoists)), if_pos hoists]
  rw [parts, Written.andThen_error_eq_none] at ok
  exact ⟨_, linkBlock_text ok.2, by rw [parts, Written.andThen_text_of_ok ok.1]⟩

/-- The lines of what a block of a document hoists are lines of the rendered document. -/
theorem hasLine_of_block {d : Document} {settings : Settings} {metadata : Option Metadata}
    {t : List Char} (rendered : render d settings metadata = .ok t) {c : Node}
    (member : c ∈ d.children) (hoists : c.tagIs Tag.hoists = true) :
    ∃ block, d.LinkBlockOf c block ∧ ∀ line, line ≠ [] → HasLine block line → HasLine t line := by
  obtain ⟨i, child⟩ := List.getElem?_of_mem member
  obtain ⟨ok, rest, rfl⟩ := render_split rendered child
  obtain ⟨block, linkBlock, text⟩ := Walk.write_hoisting hoists ok
  refine ⟨block, linkBlock, fun line some has => ?_⟩
  obtain ⟨one, place, stands⟩ := hasLine_iff.mp has
  have own : StandsAt (Walk.write _ c).text _ line :=
    text ▸ stands.append_left (bare_tidy _ c).endsLine
  exact (((own.append_right rest).append_left (Walk.front_endsLine _ i)).endOnce one some).hasLine
    one

/-- A link of a document, known by where it stands, that goes somewhere and is in a block other than
    a heading or a footnote. Its destination is on one line, as all destinations in Markdown are. -/
inductive Document.LinkAt (d : Document) : Path → Node → Prop where
  | inside {i : Nat} {c link : Node} {path : Path} : d.children[i]? = some c →
      c.hasTag .heading = false → c.hasTag .footnote = false → c.at? path = some link →
      link.tagIs Tag.isLink = true → link.leadsNowhere = false →
      (∀ uri, link.destination? = some uri → '\n' ∉ uri) → d.LinkAt (i :: path) link

theorem Node.hoists_of_standsAtTop {c : Node} (top : c.tagIs Tag.standsAtTop = true)
    (noHeading : c.hasTag .heading = false) (noNote : c.hasTag .footnote = false) :
    c.tagIs Tag.hoists = true := by
  cases c with
  | text t => cases top
  | element tag attrs children =>
      cases tag with
      | heading => cases noHeading
      | footnote => cases noNote
      | _ => exact top

/-- Such a link is shown by a block that hoists it. -/
theorem Document.LinkAt.shown {d : Document} {path : Path} {link : Node} (h : d.LinkAt path link)
    (blocks : ∀ c ∈ d.children, c.tagIs Tag.standsAtTop = true) :
    ∃ i c inside, path = i :: inside ∧ d.children[i]? = some c ∧
      (c ∈ d.children ∧ c.tagIs Tag.hoists = true) ∧ (inside, link) ∈ c.shown ∧
      ∀ uri, link.destination? = some uri → '\n' ∉ uri := by
  cases h with
  | @inside i c _ path child noHeading noNote located isLink goes plain =>
      have member := List.mem_of_getElem? child
      exact ⟨i, c, path, rfl, child,
        ⟨member, Node.hoists_of_standsAtTop (blocks c member) noHeading noNote⟩,
        Node.mem_shown.mpr ⟨⟨located, isLink⟩, goes⟩, plain⟩

/-- The links of a block that is written have lines of their own in what is written. -/
theorem Walk.haveLines {w : Walk} {c : Node} (hoists : c.tagIs Tag.hoists = true)
    (ok : (w.write c).error = none) :
    HaveLines w.document.LineOf (w.write c).text (c.shown.map Prod.snd) := by
  obtain ⟨block, linkBlock, text⟩ := Walk.write_hoisting hoists ok
  have ⟨links, _, _, _, listed, _⟩ := linkBlock
  have own := linkBlock.haveLines listed (Document.sublist_follow listed) fun link member =>
    (Node.mem_links.mp member).choose_spec.2
  rw [text, Node.shown_map_snd]
  exact (HaveLines.nil _).append (bare_tidy w c).endsLine own

/-- The line of a reference that a block leads to is a line of the rendered document. -/
theorem hasLine_of_reached {d : Document} {settings : Settings} {metadata : Option Metadata}
    {page : List Char} (rendered : render d settings metadata = .ok page) {c reference : Node}
    (member : c ∈ d.children) (hoists : c.tagIs Tag.hoists = true)
    (reached : d.Reached c reference) : ∃ line, d.LineOf reference line ∧ HasLine page line := by
  obtain ⟨block, linkBlock, lines⟩ := hasLine_of_block rendered member hoists
  have ⟨links, _, _, _, listed, _⟩ := linkBlock
  have isNote := reached.isNote
  have destination := Node.destination?_note isNote
  obtain ⟨line, own, some, has⟩ := linkBlock.hasLine listed
    (Document.mem_links_of_reached listed reached) (Node.tagIs_of_hasTag isNote rfl)
    (by simp [Node.leadsNowhere, destination]) (by simp [destination])
  exact ⟨line, own, lines line some has⟩

/-- In a document of headings, paragraphs, quotes, lists, tables and footnotes, every link with a
    destination and every footnote reference has a line of its own in the rendered text, unless it
    stands in a heading or in a footnote: different links have lines at different places, also where
    they are equal. A reference in a footnote that is reached from a block has a line too, so that
    no mark is left without the footnote it stands for. -/
theorem links_have_lines {d : Document} (blocks : ∀ c ∈ d.children, c.tagIs Tag.standsAtTop = true)
    {settings : Settings} {metadata : Option Metadata} {t : List Char}
    (rendered : render d settings metadata = .ok t) :
    (∃ place : Path → Nat, Set.InjOn place {path | ∃ link, d.LinkAt path link} ∧
      ∀ path link, d.LinkAt path link →
        ∃ line, d.LineOf link line ∧ '\n' ∉ line ∧ StandsAt t (place path) line) ∧
    ∀ c ∈ d.children, c.hasTag .heading = false → c.hasTag .footnote = false →
      ∀ reference, d.Reached c reference → ∃ line, d.LineOf reference line ∧ HasLine t line := by
  let w : Walk := ⟨d, metadata, settings.maxHeadingLevel⟩
  have each : ∀ c : Node, c ∈ d.children ∧ c.tagIs Tag.hoists = true →
      ∃ place : Path → Nat, Set.InjOn place {path | path ∈ c.shown.map Prod.fst} ∧
        ∀ path link, (path, link) ∈ c.shown →
          ∃ line, d.LineOf link line ∧ StandsAt (w.write c).text (place path) line := by
    rintro c ⟨member, hoists⟩
    obtain ⟨i, child⟩ := List.getElem?_of_mem member
    exact (w.haveLines hoists (render_split rendered child).1).place c.shown_distinct
  choose! inBlock apart stand using each
  refine ⟨⟨w.place inBlock, ?_, ?_⟩, fun c member noHeading noNote reference reached =>
    hasLine_of_reached rendered member
      (Node.hoists_of_standsAtTop (blocks c member) noHeading noNote) reached⟩
  · rintro _ ⟨link, one⟩ _ ⟨link', other⟩ same
    obtain ⟨i, c, path, rfl, child, hoisting, shown, _⟩ := one.shown blocks
    obtain ⟨j, c', path', rfl, child', hoisting', shown', _⟩ := other.shown blocks
    obtain ⟨_, _, stands⟩ := stand c hoisting path link shown
    obtain ⟨_, _, stands'⟩ := stand c' hoisting' path' link' shown'
    obtain rfl := Walk.place_index child child' stands.lt_length stands'.lt_length same
    obtain rfl := Option.some.inj (child.symm.trans child')
    rw [Walk.place_cons child, Walk.place_cons child] at same
    exact congrArg (i :: ·) (apart c hoisting (List.mem_map.mpr ⟨_, shown, rfl⟩)
      (List.mem_map.mpr ⟨_, shown', rfl⟩) (Nat.add_left_cancel same))
  · intro _ link here
    obtain ⟨i, c, path, rfl, child, hoisting, shown, plain⟩ := here.shown blocks
    obtain ⟨line, own, stands⟩ := stand c hoisting path link shown
    obtain ⟨one, some⟩ := own.one_line plain
    obtain ⟨_, rest, whole⟩ := render_split rendered child
    refine ⟨line, own, one, ?_⟩
    rw [whole, Walk.place_cons child]
    exact ((stands.append_right rest).append_left (w.front_endsLine i)).endOnce one some

/-- Two equal links in a quote, and a footnote that another footnote refers to. -/
theorem links_have_lines_quote :
    let link : Node := .element .reference { refuri := some "/x".toList } [.text ['l']]
    let mark (id : Char) (number : Int) : Node :=
      .element .footnoteReference { refid := some [id], noteid := some number } []
    let note (id : Char) (number : Int) (inside : List Node) : Node :=
      .element .footnote { ids := [[id]], noteid := some number } [.element .paragraph {} inside]
    let first := note 'a' 1 [.text ['n'], mark 'b' 2]
    let second := note 'b' 2 [.text ['m']]
    let quote : Node := .element .blockQuote {}
      [.element .paragraph {} [.text ['q'], link, mark 'a' 1, link]]
    let d := Document.ofChildren [quote, first, second]
    let t := "> ql[^1]l\n\n[^1]: n[^2]\n[^2]: m\n\n=> /x l\n=> /x l\n".toList
    render d {} none = .ok t ∧ d.LinkAt [0, 0, 1] link ∧ d.LinkAt [0, 0, 3] link ∧
      (∃ i j, i ≠ j ∧ (∃ line, d.LineOf link line ∧ StandsAt t i line) ∧
        ∃ line, d.LineOf link line ∧ StandsAt t j line) ∧
      ∃ line, d.LineOf (mark 'b' 2) line ∧ HasLine t line := by
  intro link mark note first second quote d t
  have rendered : render d {} none = .ok t := by
    dsimp only [d, quote, first, second, note, link, mark, t]
    cbv
  have all : d.children = [quote, first, second] := by simp [d, Document.ofChildren]
  have blocks : ∀ c ∈ d.children, c.tagIs Tag.standsAtTop = true := by
    rw [all]
    decide
  have resolved : d.resolve (mark 'a' 1) = .ok ⟨[['a']], some [1], first⟩ :=
    Document.resolve_eq_ok.mpr ⟨['a'], rfl, by decide⟩
  have inQuote : quote.at? [0, 2] = some (mark 'a' 1) := rfl
  have inNote : first.at? [0, 1] = some (mark 'b' 2) := rfl
  have behind : d.Reached quote (mark 'b' 2) := .behind (.inside inQuote rfl) resolved inNote rfl
  have child : d.children[0]? = some quote := by rw [all]; rfl
  have early : d.LinkAt [0, 0, 1] link := .inside child rfl rfl rfl rfl rfl (by decide)
  have late : d.LinkAt [0, 0, 3] link := .inside child rfl rfl rfl rfl rfl (by decide)
  obtain ⟨⟨place, apart, stand⟩, reached⟩ := links_have_lines blocks rendered
  refine ⟨rendered, early, late, ⟨place [0, 0, 1], place [0, 0, 3], ?_, ?_, ?_⟩,
    reached quote (by simp [all]) rfl rfl _ behind⟩
  · intro same
    cases apart ⟨link, early⟩ ⟨link, late⟩ same
  · obtain ⟨line, own, _, stands⟩ := stand _ link early
    exact ⟨line, own, stands⟩
  · obtain ⟨line, own, _, stands⟩ := stand _ link late
    exact ⟨line, own, stands⟩

/-- The link of a heading has no line: a heading, also one that was read from Markdown, is written
    as plain text. -/
theorem heading_link_has_no_line :
    let link : Node := .element .reference { refuri := some "/x".toList } [.text ['a']]
    let heading : Node := .element .heading { level := some 1 } [link]
    let source : Markdown.Tree := .node (.heading "h1".toList) []
      [.node .inline [] [.node (.link "/x".toList []) [] [.node .text ['a'] []]]]
    let d := Document.ofChildren [heading]
    let t := "# a\n".toList
    Document.build? {} [source] = .ok d ∧ render d {} none = .ok t ∧
      heading.at? [0] = some link ∧ link.leadsNowhere = false ∧
      ¬∃ line, d.LineOf link line ∧ HasLine t line := by
  intro link heading source d t
  refine ⟨?_, ?_, rfl, rfl, ?_⟩
  · dsimp only [d, heading, link, source]
    cbv
  · dsimp only [d, heading, link, t]
    cbv
  · -- The line would be longer than the whole text.
    rintro ⟨line, own, _, before, behind, split, _⟩
    have size := congrArg List.length split
    cases own with
    | note isNote => cases isNote
    | @destination uri label given =>
        obtain rfl : "/x".toList = uri := Option.some.inj given
        simp [t] at size
        omega

end Gemtext
