import Gemtext.Proofs.Failures
import Gemtext.Proofs.LinkLines
import Gemtext.Proofs.QuotedText

/-! # Unbroken text

Only raw HTML, hard breaks and destinations with a line feed in them begin a line in the middle of
what is composed. A document that is built from constructs without any of these holds none of them,
in its tree and in its register. So every text of it that stands outside of quotes is a single line.
-/

namespace Gemtext

open Text

/-! ## Constructs that begin a line -/

namespace Markdown

mutual
/-- The kinds of the constructs of a tree. -/
def Tree.kinds : Tree → List Kind
  | .node kind _ children => kind :: kindsIn children

def kindsIn : List Tree → List Kind
  | [] => []
  | t :: rest => t.kinds ++ kindsIn rest
end

theorem kindsIn_eq_flatMap (ts : List Tree) : kindsIn ts = ts.flatMap Tree.kinds := by
  induction ts with
  | nil => rfl
  | cons t rest ih => simp [kindsIn, ih]

/-- Raw HTML, hard breaks, and destinations with a line feed in them. -/
def Kind.breaksLine : Kind → Bool
  | .htmlBlock | .htmlTag | .hardBreak => true
  | .link href _ => href.contains '\n'
  | .image src => src.contains '\n'
  | _ => false

end Markdown

/-! ## Nodes that begin a line -/

namespace Node

/-- Raw content, a hard break, or a destination with a line feed in it. A term that begins with a
    list is none of them, but leaves only the empty line that stands before it. -/
def breaksLine (n : Node) : Bool :=
  n.hasTag .raw || n.hasTag .hardbreak || n.destination?.any (·.contains '\n') ||
    (n.attrs.term.getD false && n.children.head?.any (·.tagIs Tag.isList))

/-- Nothing in a tree begins a line. -/
def Unbroken (n : Node) : Prop := ∀ path m, n.at? path = some m → m.breaksLine = false

theorem unbroken_text (t : List Char) : (text t).Unbroken := by
  intro path m located
  cases path with
  | nil =>
      cases located
      rfl
  | cons i rest => cases located

theorem unbroken_element {tag : Tag} {attrs : Attributes} {children : List Node}
    (own : (element tag attrs children).breaksLine = false)
    (inside : ∀ c ∈ children, c.Unbroken) : (element tag attrs children).Unbroken := by
  intro path m located
  cases path with
  | nil =>
      cases located
      exact own
  | cons i rest =>
      obtain ⟨c, child, below⟩ := Option.bind_eq_some_iff.mp located
      exact inside c (List.mem_of_getElem? child) rest m below

namespace Unbroken

variable {n : Node}

theorem own (h : n.Unbroken) : n.breaksLine = false := h [] n rfl

theorem child {tag : Tag} {attrs : Attributes} {children : List Node}
    (h : (element tag attrs children).Unbroken) {c : Node} (member : c ∈ children) :
    c.Unbroken := by
  intro path m located
  obtain ⟨path', found⟩ := at?_child member located
  exact h path' m found

theorem noTag (h : n.Unbroken) : n.hasTag .raw = false ∧ n.hasTag .hardbreak = false := by
  have own := h.own
  simp only [breaksLine, Bool.or_eq_false_iff] at own
  exact own.1.1

theorem destination (h : n.Unbroken) {uri : List Char} (given : n.destination? = some uri) :
    '\n' ∉ uri := by
  have own := h.own
  simp only [breaksLine, Bool.or_eq_false_iff, given, Option.any_some] at own
  simpa using own.1.2

/-- A term does not begin with a list. -/
theorem term (h : n.Unbroken) (isTerm : n.attrs.term.getD false = true) :
    n.children.head?.any (·.tagIs Tag.isList) = false := by
  have own := h.own
  simp only [breaksLine, Bool.or_eq_false_iff, isTerm, Bool.true_and] at own
  exact own.2

end Unbroken

end Node

/-! ## Building -/

namespace Document

open Markdown

theorem onlyText_unbroken (t : List Char) : ∀ c ∈ onlyText t, c.Unbroken := by
  intro c member
  unfold onlyText at member
  split at member
  · cases member
  · obtain rfl := List.mem_singleton.mp member
    exact Node.unbroken_text t

theorem nodesOf_unbroken {content : List Char} {children nodes : List Node} {kind : Kind}
    (stays : kind.breaksLine = false) (built : nodesOf content children kind = .ok nodes)
    (inside : ∀ c ∈ children, c.Unbroken) : ∀ n ∈ nodes, n.Unbroken := by
  have one {tag : Tag} {attrs : Attributes} {within : List Node}
      (own : (Node.element tag attrs within).breaksLine = false)
      (each : ∀ c ∈ within, c.Unbroken) : ∀ n ∈ [Node.element tag attrs within], n.Unbroken :=
    List.forall_mem_singleton.mpr (Node.unbroken_element own each)
  cases kind with
  | group | inline | footnoteBlock =>
      cases built
      exact inside
  | heading tag =>
      rw [nodesOf] at built
      split at built
      · cases built
        exact one rfl inside
      · cases built
  | term =>
      cases built
      exact one rfl (one rfl inside)
  | fence | codeBlock | code =>
      cases built
      exact one rfl (onlyText_unbroken _)
  | rule =>
      cases built
      exact one rfl (List.forall_mem_nil _)
  | htmlBlock | htmlTag | hardBreak => cases stays
  | footnote index | footnoteReference index =>
      cases index with
      | none => cases built
      | some i =>
          obtain ⟨id, _, rfl⟩ := map_eq_ok.mp built
          first
          | exact one rfl inside
          | exact one rfl (List.forall_mem_nil _)
  | text | softBreak =>
      cases built
      exact List.forall_mem_singleton.mpr (Node.unbroken_text _)
  | link | image =>
      cases built
      exact one (Bool.or_eq_false_iff.mpr ⟨stays, rfl⟩) inside
  | other =>
      cases built
      exact List.forall_mem_nil _
  | _ =>
      cases built
      exact one rfl inside

theorem build_unbroken {t : Tree} (stays : ∀ kind ∈ t.kinds, kind.breaksLine = false)
    {nodes : List Node} (built : build t = .ok nodes) : ∀ n ∈ nodes, n.Unbroken := by
  induction t using Tree.rec_strong generalizing nodes with
  | node kind content children ih =>
      rw [Tree.kinds, kindsIn_eq_flatMap] at stays
      obtain ⟨own, below⟩ := List.forall_mem_cons.mp stays
      rw [build] at built
      split at built
      · cases built
      · split at built
        · cases built
        · next inside builtInside =>
            refine nodesOf_unbroken own built ?_
            split at builtInside
            · refine forall_mem_buildAll builtInside fun t kept within builtOne => ?_
              have member := (dropDeniedSpans_sublist children).subset kept
              exact ih t member
                (fun kind found => below kind (List.mem_flatMap.mpr ⟨t, member, found⟩)) builtOne
            · cases builtInside
              exact nofun

/-- Nothing in a document begins a line. -/
def Unbroken (d : Document) : Prop := ∀ m, d.Holds m → m.breaksLine = false

/-- Where no construct begins a line, no node does. -/
theorem unbroken_of_built {ts : List Tree} (stays : ∀ kind ∈ kindsIn ts, kind.breaksLine = false)
    {d : Document} (built : build? {} ts = .ok d) : d.Unbroken := by
  obtain ⟨nodes, builtAll, rfl⟩ := map_eq_ok.mp built
  rw [kindsIn_eq_flatMap] at stays
  have each : ∀ n ∈ nodes, n.Unbroken := by
    refine forall_mem_buildAll builtAll fun t kept own => build_unbroken fun kind found => ?_
    exact stays kind (List.mem_flatMap.mpr ⟨t, (dropDeniedSpans_sublist ts).subset kept, found⟩)
  intro m held
  rcases holds_appendBuilt held with rfl | ⟨c, child, path, located⟩
  · rfl
  · exact each c child path m located

theorem Unbroken.covers {d : Document} (unbroken : d.Unbroken) {n : Node} (covered : d.Covers n) :
    n.Unbroken :=
  fun path m located => unbroken m (covered path m located)

end Document

/-! ## Composing -/

theorem delimiter_no_break (style : Style) (tag : Tag) :
    ∀ c ∈ style.delimiter tag, isBreak c = false := by
  unfold Style.delimiter
  split
  · cases tag <;> simp [Tag.delimiter, isBreak]
  · simp

/-- What holds of the text of every child holds of the parts of a container. -/
theorem forall_mem_composeParts {P : List Char → Prop} {style : Style} {inText : Bool}
    {children : List Node}
    (each : ∀ c ∈ children, ∀ t, compose style inText c = .ok t → P t) {parts : List (List Char)}
    (composed : composeParts style inText children = .ok parts) : ∀ t ∈ parts, P t := by
  induction children generalizing parts with
  | nil =>
      cases composed
      exact nofun
  | cons c rest ih =>
      obtain ⟨first, others⟩ := List.forall_mem_cons.mp each
      cases isList : c.tagIs Tag.isList with
      | true => exact ih others (by simpa [composeParts, isList] using composed)
      | false =>
          rw [composeParts_cons isList] at composed
          cases own : compose style inText c with
          | error e =>
              rw [own] at composed
              cases composed
          | ok t =>
              rw [own] at composed
              obtain ⟨more, behind, rfl⟩ := map_eq_ok.mp composed
              refine List.forall_mem_append.mpr ⟨fun u member => ?_, ih others behind⟩
              obtain rfl := List.mem_singleton.mp (List.mem_filter.mp member).1
              exact first u own

/-- Outside of quotes, a tree in which nothing begins a line is composed on one line. -/
theorem compose_unbroken {n : Node} (unbroken : n.Unbroken) {style : Style}
    (plain : style.quoted = false) {inText : Bool} {t : List Char}
    (composed : compose style inText n = .ok t) : ∀ c ∈ t, isBreak c = false := by
  have separator : style.separator = [' '] := by rw [Style.separator, plain]; rfl
  have joined (t : List Char) : ∀ c ∈ joinLines style.separator t, isBreak c = false :=
    joinLines_no_break (by simp [separator, isBreak]) t
  induction n using Node.rec_strong generalizing inText t with
  | text s =>
      cases composed
      exact joined s
  | element tag attrs children ih =>
      cases container : tag.isContainer with
      | true =>
          rw [compose_container container] at composed
          split at composed
          · cases composed
            exact joined _
          · obtain ⟨parts, listed, rfl⟩ := map_eq_ok.mp composed
            have each : ∀ part ∈ parts, ∀ c ∈ part, isBreak c = false :=
              forall_mem_composeParts (fun c member t => ih c member (unbroken.child member)) listed
            have between : ∀ c ∈ joinParts style children parts, isBreak c = false := by
              intro c member
              rcases of_mem_intercalate member with inSeparator | ⟨part, inside, found⟩
              · split at inSeparator
                · rw [separator] at inSeparator
                  obtain rfl := List.mem_singleton.mp inSeparator
                  rfl
                · cases inSeparator
              · exact each part inside c found
            have delimited := delimiter_no_break style tag
            exact List.forall_mem_append.mpr
              ⟨List.forall_mem_append.mpr ⟨delimited, between⟩, delimited⟩
      | false =>
          cases tag with
          | footnoteReference =>
              rw [compose] at composed
              split at composed
              · exact footnoteMark_no_break composed
              · cases composed
          | hardbreak => cases unbroken.noTag.2
          | raw => cases unbroken.noTag.1
          | subscript | superscript =>
              cases composed
              refine composeScript_no_break style ?_ ?_ _
              all_goals simp [isBreak]
          | literalBlock =>
              cases composed
              exact joined _
          | _ => cases container

/-- There is no raw HTML to compose in such a tree. -/
theorem Node.Unbroken.rawHtml {n : Node} (unbroken : n.Unbroken) (inText : Bool) :
    n.rawHtml inText = [] := by
  induction n using Node.rec_strong generalizing inText with
  | text t => rfl
  | element tag attrs children ih =>
      have other : tag ≠ .raw := by
        rintro rfl
        cases unbroken.noTag.1
      have inside : rawHtmlIn tag.isTextual children = [] := by
        have each (c : Node) (member : c ∈ children) : c.rawHtml tag.isTextual = [] :=
          ih c member (unbroken.child member) _
        clear ih unbroken
        induction children with
        | nil => rfl
        | cons c rest tail =>
            obtain ⟨first, behind⟩ := List.forall_mem_cons.mp each
            rw [rawHtmlIn, first, tail behind]
            simp
      rw [Node.rawHtml, if_neg other, inside]
      simp

/-! ## Link blocks -/

/-- The lines of the links that stand behind a block are single lines, and none is empty. -/
theorem linkBlock_lines {d : Document} (unbroken : d.Unbroken) {n : Node} (covered : d.Covers n)
    (ok : (linkBlock d n).error = none) :
    ∃ notes images references,
      (∀ line ∈ notes ++ images ++ references, '\n' ∉ line ∧ line ≠ []) ∧
        (linkBlock d n).text = lineGroup notes ++ lineGroup images ++ lineGroup references := by
  obtain ⟨links, notes, images, references, listed, ofNotes, ofImages, ofReferences, written⟩ :=
    linkBlock_text ok
  have held := (follow_explained (fun link member => covered.links member) []).2 links listed
  have single {kind : Tag} {lines : List (List Char)}
      (related : List.Forall₂ d.LineOf (shownLinks kind links) lines) :
      ∀ line ∈ lines, '\n' ∉ line ∧ line ≠ [] := by
    intro line member
    obtain ⟨link, inside, lineOf⟩ := forall₂_exists related.flip member
    exact lineOf.one_line fun uri given =>
      (unbroken.covers (held link (List.mem_filter.mp inside).1)).destination given
  refine ⟨notes, images, references, ?_, written⟩
  exact List.forall_mem_append.mpr
    ⟨List.forall_mem_append.mpr ⟨single ofNotes, single ofImages⟩, single ofReferences⟩

end Gemtext
