import Mathlib.Data.List.Basic
import Gemtext.Convert
import Gemtext.Proofs.Causes
import Gemtext.Proofs.DeniedPairs
import Gemtext.Proofs.Grammar
import Gemtext.Proofs.Register

/-! # Failures of documents from Markdown

Of the causes for which a rendering fails, footnote references without a number that can be written
are none where the document is built from Markdown. What is left is that the document is malformed,
or that raw HTML in it is refused, for a section with a bad keyword or for a decimal reference with
too many digits.
-/

namespace Gemtext

open Text

/-! ## Decimal references -/

namespace Html

variable {digits : List Char}

theorem numericReference?_long (each : ∀ c ∈ digits, c.isDigit = true)
    (long : digitLimit < digits.length) :
    numericReference? (digits ++ [';']) = some (none, []) := by
  have taken : (digits ++ [';']).takeWhile Char.isDigit = digits := by
    simp [List.takeWhile_append_of_pos each]
  have left : (digits ++ [';']).dropWhile Char.isDigit = [';'] := by
    simp [List.dropWhile_append_of_pos each]
  cases digits with
  | nil => cases long
  | cons d ds =>
      have decimal : ¬(d == 'x' || d == 'X') = true := by
        have isDigit := each d List.mem_cons_self
        rw [Bool.or_eq_true, beq_iff_eq, beq_iff_eq]
        rintro (rfl | rfl) <;> cases isDigit
      have ends : ¬((d :: ds).isEmpty || isHexDigit ';') = true := by
        rw [List.isEmpty_cons, Bool.false_or]
        decide
      unfold numericReference?
      simp only [List.cons_append] at taken left ⊢
      simp only [if_neg decimal, left, taken, if_neg ends, if_pos (And.intro trivial long)]
      rfl

theorem notMem_reference (each : ∀ c ∈ digits, c.isDigit = true) {c : Char}
    (noDigit : c.isDigit = false) (noMark : c ∉ ['&', '#', ';']) :
    c ∉ "&#".toList ++ digits ++ [';'] := by
  intro member
  rcases List.mem_append.mp member with front | last
  · rcases List.mem_append.mp front with mark | inside
    · exact noMark (List.mem_append_left [';'] mark)
    · cases noDigit.symm.trans (each c inside)
  · exact noMark (List.mem_append_right ['&', '#'] last)

/-- Raw HTML that is a decimal reference with too many digits is refused. -/
theorem plainText_longReference (each : ∀ c ∈ digits, c.isDigit = true)
    (long : digitLimit < digits.length) (lineBreak : List Char) :
    plainText lineBreak ("&#".toList ++ digits ++ [';']) = .error .longReference := by
  have noBracket : '<' ∉ "&#".toList ++ digits ++ [';'] := notMem_reference each rfl (by decide)
  have unbroken : ∀ c ∈ "&#".toList ++ digits ++ [';'], isBreak c = false := by
    intro c member
    rw [← Bool.not_eq_true, isBreak_iff]
    rintro (rfl | rfl)
    · exact notMem_reference each rfl (by decide) member
    · exact notMem_reference each rfl (by decide) member
  have moved : move false .markup ("&#".toList ++ digits ++ [';']) = .error .longReference := by
    change moveAtReference false ('&' :: '#' :: (digits ++ [';'])) = _
    rw [moveAtReference, List.drop_one, List.tail_cons]
    simp only [numericReference?_long each long]
  have stopped : events ("&#".toList ++ digits ++ [';']) = .error .longReference := by
    rw [events, pass, moved]
  have opened : "&#".toList ++ digits ++ [';'] = '&' :: '#' :: (digits ++ [';']) := rfl
  rw [plainText, removeDenied_of_no_bracket noBracket, opened]
  dsimp only
  rw [← opened, joinLines_eq_self unbroken, stopped]

end Html

/-- So a walk stops where such raw HTML stands. -/
theorem write_longReference {digits : List Char} (each : ∀ c ∈ digits, c.isDigit = true)
    (long : digitLimit < digits.length) (w : Walk) :
    w.write (.element .raw { format := some "html".toList }
      [.text ("&#".toList ++ digits ++ [';'])]) = .fail (.rejected .longReference) := by
  have plain : '\x00' ∉ "&#".toList ++ digits ++ [';'] := Html.notMem_reference each rfl (by decide)
  rw [Walk.write]
  simp only [Node.source, Node.sources, Node.unescaped_eq_self plain, Tag.isTextual, if_true]
  rw [if_neg (by decide), List.intercalate_singleton, rawText, if_neg (by decide),
    if_pos (by decide), Html.plainText_longReference each long]
  rfl

/-! ## Numbers of footnote references -/

/-- All footnote references in a tree have numbers that can be written. -/
def Node.Numbered (n : Node) : Prop :=
  ∀ m ∈ n.filter (·.hasTag .footnoteReference),
    ∃ number, m.attrs.noteid = some number ∧ IsWritable number

theorem Node.numbered_text (t : List Char) : (Node.text t).Numbered := nofun

theorem Node.numbered_element {tag : Tag} {attrs : Attributes} {children : List Node}
    (own : tag = .footnoteReference → ∃ number, attrs.noteid = some number ∧ IsWritable number)
    (inside : ∀ c ∈ children, c.Numbered) : (Node.element tag attrs children).Numbered := by
  intro m member
  rw [filter, filterAll_eq_flatMap, List.mem_append, List.mem_flatMap] at member
  rcases member with here | ⟨c, child, below⟩
  · split at here
    · next isNote =>
        obtain rfl := List.mem_singleton.mp here
        exact own (by simpa [hasTag, tagIs, tag?] using isNote)
    · cases here
  · exact inside c child m below

namespace Document

open Markdown

theorem onlyText_numbered (t : List Char) : ∀ c ∈ onlyText t, c.Numbered := by
  intro c member
  unfold onlyText at member
  split at member
  · cases member
  · obtain rfl := List.mem_singleton.mp member
    exact Node.numbered_text t

theorem nodesOf_numbered {content : List Char} {children nodes : List Node} {kind : Kind}
    (built : nodesOf content children kind = .ok nodes) (inside : ∀ c ∈ children, c.Numbered) :
    ∀ n ∈ nodes, n.Numbered := by
  have one {tag : Tag} {attrs : Attributes} (plain : tag ≠ .footnoteReference) {within : List Node}
      (each : ∀ c ∈ within, c.Numbered) : ∀ n ∈ [Node.element tag attrs within], n.Numbered :=
    List.forall_mem_singleton.mpr (Node.numbered_element (fun isNote => absurd isNote plain) each)
  cases kind with
  | group | inline | footnoteBlock =>
      cases built
      exact inside
  | heading tag =>
      rw [nodesOf] at built
      split at built
      · cases built
        exact one (by decide) inside
      · cases built
  | term =>
      cases built
      exact one (by decide) (one (by decide) inside)
  | fence | codeBlock | htmlBlock | htmlTag | code =>
      cases built
      exact one (by decide) (onlyText_numbered _)
  | rule | hardBreak =>
      cases built
      exact one (by decide) nofun
  | footnote index =>
      cases index with
      | none => cases built
      | some i =>
          obtain ⟨id, _, rfl⟩ := map_eq_ok.mp built
          exact one (by decide) inside
  | footnoteReference index =>
      cases index with
      | none => cases built
      | some i =>
          obtain ⟨id, given, rfl⟩ := map_eq_ok.mp built
          exact List.forall_mem_singleton.mpr (Node.numbered_element
            (fun _ => ⟨i + 1, rfl, (footnoteId_eq_ok.mp given).1⟩) nofun)
  | text | softBreak =>
      cases built
      exact List.forall_mem_singleton.mpr (Node.numbered_text _)
  | other =>
      cases built
      exact nofun
  | _ =>
      cases built
      exact one (by decide) inside

/-- What holds of all nodes of each construct holds of the nodes of all of them. -/
theorem forall_mem_buildAll {P : Node → Prop} {ts : List Tree} {nodes : List Node}
    (built : buildAll ts = .ok nodes)
    (each : ∀ t ∈ ts, ∀ own, build t = .ok own → ∀ n ∈ own, P n) : ∀ n ∈ nodes, P n := by
  induction ts generalizing nodes with
  | nil =>
      rw [buildAll] at built
      cases built
      intro n member
      cases member
  | cons t rest ih =>
      obtain ⟨first, others⟩ := List.forall_mem_cons.mp each
      rw [buildAll] at built
      split at built
      · cases built
      · next own builtFirst =>
          split at built
          · cases built
          · next more builtRest =>
              cases built
              exact List.forall_mem_append.mpr ⟨first own builtFirst, ih builtRest others⟩

theorem build_numbered {t : Tree} {nodes : List Node} (built : build t = .ok nodes) :
    ∀ n ∈ nodes, n.Numbered := by
  induction t using Tree.rec_strong generalizing nodes with
  | node kind content children ih =>
      rw [build] at built
      split at built
      · cases built
      · split at built
        · cases built
        · next inside builtInside =>
            refine nodesOf_numbered built ?_
            split at builtInside
            · exact forall_mem_buildAll builtInside fun t kept own =>
                ih t ((dropDeniedSpans_sublist children).subset kept)
            · cases builtInside
              intro n member
              cases member

/-- What stands in a built document stands in its tree. -/
theorem holds_appendBuilt {nodes : List Node} {m : Node} (h : (appendBuilt {} nodes).Holds m) :
    m = (appendBuilt {} nodes).root ∨ ∃ c ∈ nodes, ∃ path, c.at? path = some m := by
  rcases h with ⟨path, located⟩ | ⟨entry, member, path, located⟩
  · cases path with
    | nil => exact .inl (Option.some.inj located).symm
    | cons i rest =>
        obtain ⟨c, child, below⟩ := Option.bind_eq_some_iff.mp located
        rw [Document.root, Node.children, appendBuilt_children] at child
        exact .inr ⟨c, List.mem_of_getElem? child, rest, below⟩
  · rcases mem_registerAll member with old | ⟨place, _, added⟩
    · cases old
    · obtain ⟨i, c, rest, _, inside, found, _⟩ := Node.mem_definitionsFrom_iff.mp added
      exact .inr ⟨c, List.mem_of_getElem? inside, _, Node.at?_append found located⟩

/-- Elements of a kind that stand in a built document, apart from its root. -/
theorem mem_filter_appendBuilt {nodes : List Node} {m : Node} {tag : Tag}
    (h : (appendBuilt {} nodes).Holds m) (isTag : m.hasTag tag = true) (noRoot : tag ≠ .document) :
    ∃ c ∈ nodes, m ∈ c.filter (·.hasTag tag) := by
  rcases holds_appendBuilt h with rfl | ⟨c, child, path, located⟩
  · exact absurd (eq_of_beq isTag).symm noRoot
  · exact ⟨c, child, Node.mem_filter.mpr ⟨path, located, isTag⟩⟩

/-- The footnote references in a built document have numbers that can be written. -/
theorem numbered_appendBuilt {ts : List Tree} {nodes : List Node} (built : buildAll ts = .ok nodes)
    {m : Node} (h : (appendBuilt {} nodes).Holds m)
    (isNote : m.hasTag .footnoteReference = true) :
    ∃ number, m.attrs.noteid = some number ∧ IsWritable number := by
  obtain ⟨c, child, inside⟩ := mem_filter_appendBuilt h isNote (by decide)
  exact forall_mem_buildAll built (fun t _ own => build_numbered) c child m inside

/-- A document that is built from Markdown is rendered, or it is malformed, or raw HTML stands in it
    that is refused. -/
theorem built_render_ends {ts : List Tree} {d : Document} (built : build? {} ts = .ok d)
    (settings : Settings) (metadata : Option Metadata) :
    (∃ page, render d settings metadata = .ok page) ∨
      (∃ cause n, render d settings metadata = .error (.malformed cause n)) ∨
      ∃ cause, render d settings metadata = .error (.rejected cause) ∧
        ∃ c ∈ d.children, ∃ m ∈ c.filter (·.hasTag .raw), Html.Refused m.source cause := by
  obtain ⟨nodes, builtAll, rfl⟩ := map_eq_ok.mp built
  cases rendered : render (appendBuilt {} nodes) settings metadata with
  | ok page => exact .inl ⟨page, rfl⟩
  | error e =>
      refine .inr ?_
      rcases render_error_explained rendered with ⟨n, rfl⟩ | ⟨m, held, broken⟩
      · exact .inl ⟨_, _, rfl⟩
      · cases broken with
        | strayChild | strayItem | unranked | unresolved => exact .inl ⟨_, _, rfl⟩
        | undefined _ failed =>
            obtain rfl := resolve_eq_error failed
            exact .inl ⟨_, _, rfl⟩
        | unnumbered isNote missing =>
            obtain ⟨number, given, _⟩ := numbered_appendBuilt builtAll held isNote
            cases given.symm.trans missing
        | overlong isNote given long =>
            obtain ⟨number, same, short⟩ := numbered_appendBuilt builtAll held isNote
            obtain rfl := Option.some.inj (same.symm.trans given)
            exact absurd short long
        | refused isRaw holds =>
            obtain ⟨c, child, inside⟩ := mem_filter_appendBuilt held isRaw (by decide)
            refine .inr ⟨_, rfl, c, ?_, m, inside, holds⟩
            rwa [appendBuilt_children]

end Document

/-- Raw HTML has a plain text unless a section with a bad keyword or a decimal reference with too
    many digits stands in it. Hence every document that is read from a Markdown text is rendered or
    found to be malformed, unless either of these stands in its raw HTML. -/
theorem malformed_markup (lineBreak html t : List Char) :
    ((∀ cause, ¬ Html.Refused html cause) → ∃ shown, Html.plainText lineBreak html = .ok shown) ∧
    ∀ d, Document.ofMarkdown? t = .ok d → ∀ settings metadata,
      (∃ page, render d settings metadata = .ok page) ∨
        (∃ cause n, render d settings metadata = .error (.malformed cause n)) ∨
        ∃ cause, render d settings metadata = .error (.rejected cause) ∧
          ∃ c ∈ d.children, ∃ m ∈ c.filter (·.hasTag .raw), Html.Refused m.source cause := by
  constructor
  · intro none
    cases shown : Html.plainText lineBreak html with
    | ok text => exact ⟨text, rfl⟩
    | error cause => exact absurd (Html.plainText_error shown) (none cause)
  · intro d read
    rw [Document.ofMarkdown?, Document.addMarkdown?] at read
    cases trees : Markdown.read? t with
    | error e =>
        rw [trees] at read
        cases read
    | ok ts =>
        rw [trees] at read
        exact Document.built_render_ends read

/-- Where no square bracket stands, no section is refused, and where no number sign does, no
    reference. -/
theorem Html.not_refused {html : List Char} (noSection : '[' ∉ joinLines [' '] (removeDenied html))
    (noReference : '#' ∉ joinLines [' '] (removeDenied html)) (cause : Rejection) :
    ¬ Refused html cause := by
  rintro ⟨place, inside, refused⟩
  cases refused with
  | badKeyword mark _ => exact noSection (inside.subset (mark.subset (by decide)))
  | longNumber long =>
      obtain ⟨u, rfl, _⟩ := isLongReference_iff.mp long
      exact noReference (inside.subset (List.mem_append_left u (by decide)))

/-- Tags that do not match, and a block of raw HTML. -/
theorem malformed_markup_tags :
    let html := "</b><i>a<!doctype".toList
    let t := "<div>\na\n</div>".toList
    (∀ cause, ¬ Html.Refused html cause) ∧ (∃ shown, Html.plainText ['\n'] html = .ok shown) ∧
      ∃ d, Document.ofMarkdown? t = .ok d ∧
        ((∃ page, render d {} none = .ok page) ∨
          (∃ cause n, render d {} none = .error (.malformed cause n)) ∨
          ∃ cause, render d {} none = .error (.rejected cause) ∧
            ∃ c ∈ d.children, ∃ m ∈ c.filter (·.hasTag .raw), Html.Refused m.source cause) := by
  intro html t
  have plain : ∀ cause, ¬ Html.Refused html cause :=
    Html.not_refused (by decide +kernel) (by decide +kernel)
  let raw : Node := .element .raw { format := some "html".toList } [.text t]
  have read : Document.ofMarkdown? t = .ok ⟨[raw], []⟩ := by decide +kernel
  have holds := malformed_markup ['\n'] html t
  exact ⟨plain, holds.1 plain, _, read, holds.2 _ read {} none⟩

/-- A section with an unknown keyword is refused by the sanitizer, and ends a conversion. -/
theorem unknown_section_is_refused :
    Html.plainText [' '] "x<![bar[z]]>y".toList = .error (.unknownKeyword "bar".toList) ∧
      convert "<div>\n<![foo]>\n</div>".toList {} none =
        .error (.rejected (.unknownKeyword "foo".toList)) := by
  let raw : Node :=
    .element .raw { format := some "html".toList } [.text "<div>\n<![foo]>\n</div>".toList]
  have read : Document.ofMarkdown? "<div>\n<![foo]>\n</div>".toList = .ok ⟨[raw], []⟩ := by
    decide +kernel
  refine ⟨by decide +kernel, ?_⟩
  rw [convert, read]
  dsimp only [Except.bind, raw]
  decide +kernel

end Gemtext