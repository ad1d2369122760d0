import Gemtext.Proofs.ListOpenings
import Gemtext.Proofs.QuotedLines

/-! # Blank lines between blocks

A walk writes the blocks of a document one behind another, each with its own empty line at the end.
Empty quotes, blank paragraphs and blocks of nothing but links add no line of their own. So there is
one empty line between two blocks, unless a list does not stand apart.
-/

namespace Gemtext

open Text

/-! ## Links and quotes -/

theorem linkBlock_parted {d : Document} (unbroken : d.Unbroken) {n : Node} (covered : d.Covers n) :
    (linkBlock d n).Parted := by
  intro ok
  obtain ⟨notes, images, references, each, written⟩ := linkBlock_lines unbroken covered ok
  obtain ⟨first, behind⟩ := List.forall_mem_append.mp each
  obtain ⟨ofNotes, ofImages⟩ := List.forall_mem_append.mp first
  rw [written]
  have before := Written.closed_parted.andThen (.lineGroup ofNotes) (.lineGroup ofImages)
  exact Written.closed_parted.andThen before (.lineGroup behind) rfl

/-- What a child of a quote leaves begins with a quote mark. -/
theorem quoteChunk_begins {child : Node} {chunk : List Char}
    (written : quoteChunk child = .ok chunk) (some : chunk ≠ []) : ∃ rest, chunk = '>' :: rest := by
  obtain ⟨t, _, rfl⟩ := map_eq_ok.mp written
  have shows : ¬isBlank t = true := fun blank => some (if_pos blank)
  exact ⟨_, if_neg shows⟩

theorem quoteChunk_parted {child : Node} (unbroken : child.Unbroken) :
    (Written.ofExcept (quoteChunk child)).Parted := by
  cases written : quoteChunk child with
  | error e => exact nofun
  | ok chunk =>
      by_cases some : chunk = []
      · rw [some]
        exact .nothing
      · have noRaw : ∀ raw ∈ child.rawHtml false, raw.KeepsMarks := by
          rw [unbroken.rawHtml]
          exact nofun
        obtain ⟨_, lines, split, each⟩ := quoteChunk_lines noRaw written some
        have held : lines ≠ [] := by
          rintro rfl
          obtain ⟨rest, rfl⟩ := quoteChunk_begins written some
          obtain ⟨line, first⟩ := head?_plainLines (c := '>') (by decide) rest
          rw [plainLines, split] at first
          cases first
        have texts : ∀ line ∈ lines, line ≠ [] := by
          rintro _ member rfl
          cases (each [] member).length_le
        refine fun _ => ⟨?_, ?_⟩
        · have tidy := (quoteChunks_tidy [child]).endsLine
          rwa [quoteChunks, written, quoteChunks, Written.andThen_nothing] at tidy
        · change Gemtext.Parted (plainLines chunk)
          rw [plainLines, split]
          exact parted_lines held texts

/-! ## Blocks -/

/-- Elements of which a walk without metadata writes only what is inside. -/
def Tag.isPassedThrough (tag : Tag) : Bool := tag.isTransparent || tag == .document

/-- Blocks that are written as preformatted text. -/
def Tag.isPreformatted : Tag → Bool
  | literalBlock | table => true
  | _ => false

namespace Node

theorem isPreformatted_of_isList {n : Node} (isList : n.tagIs Tag.isList = true) :
    n.tagIs Tag.isPreformatted = false := by
  cases n with
  | text t => rfl
  | element tag attrs children => cases tag <;> first | rfl | cases isList

mutual
/-- The blocks that a walk over a node writes, one behind another. -/
def blocks : Node → List Node
  | text _ => []
  | element tag attrs children =>
    if tag.isPassedThrough then blocksIn children else [element tag attrs children]

def blocksIn : List Node → List Node
  | [] => []
  | n :: rest => n.blocks ++ blocksIn rest
end

theorem blocksIn_eq_flatMap (ns : List Node) : blocksIn ns = ns.flatMap blocks := by
  induction ns with
  | nil => rfl
  | cons n rest ih => simp [blocksIn, ih]

/-- A block stands in the tree, and a walk does not go through it. -/
theorem mem_blocks {n block : Node} (member : block ∈ n.blocks) :
    (∃ path, n.at? path = some block) ∧ block.tagIs Tag.isPassedThrough = false := by
  induction n using rec_strong with
  | text t => cases member
  | element tag attrs children ih =>
      rw [blocks, blocksIn_eq_flatMap] at member
      split at member
      · obtain ⟨c, inside, below⟩ := List.mem_flatMap.mp member
        obtain ⟨⟨path, located⟩, kind⟩ := ih c inside below
        exact ⟨at?_child inside located, kind⟩
      · next kept =>
          obtain rfl := List.mem_singleton.mp member
          exact ⟨⟨[], rfl⟩, Bool.not_eq_true _ ▸ kept⟩

end Node

namespace Walk

variable {w : Walk}

/-- A walk writes the blocks of a node, if it writes no metadata. -/
theorem write_blocks (plain : w.metadata = none) (n : Node) : w.write n = w.writeAll n.blocks := by
  induction n using Node.rec_strong with
  | text t => rfl
  | element tag attrs children ih =>
      have inside : w.writeAll children = w.writeAll (Node.blocksIn children) := by
        clear attrs
        induction children with
        | nil => rfl
        | cons c rest tail =>
            obtain ⟨first, behind⟩ := List.forall_mem_cons.mp ih
            rw [writeAll, Node.blocksIn, writeAll_append, first, tail behind]
      rw [Node.blocks]
      split
      · next through =>
          rw [← inside]
          rcases Bool.or_eq_true_iff.mp through with transparent | isDocument
          · exact write_transparent transparent attrs children
          · obtain rfl := eq_of_beq isDocument
            rw [write, plain]
            rfl
      · rw [writeAll, writeAll, Written.andThen_nothing]

/-- How many lines of a block are preformatted: those that a code block or a table writes, up to the
    empty line behind it. -/
def preformattedLines (w : Walk) (block : Node) : Nat :=
  if block.tagIs Tag.isPreformatted then (textLines (w.bare block).text).length - 1 else 0

/-- The lines that a walk writes of a block, the preformatted ones told apart. -/
def blockLines (w : Walk) (block : Node) : List PageLine :=
  let lines := textLines (w.write block).text
  (lines.take (w.preformattedLines block)).map (⟨·, true⟩) ++
    (lines.drop (w.preformattedLines block)).map (⟨·, false⟩)

theorem map_text_blockLines (w : Walk) (block : Node) :
    (w.blockLines block).map PageLine.text = textLines (w.write block).text := by
  simp [blockLines, Function.comp_def]

theorem blockLines_plain {block : Node} (plain : block.tagIs Tag.isPreformatted = false) :
    w.blockLines block = plainLines (w.write block).text := by
  simp [blockLines, preformattedLines, plain, plainLines]

/-- The lines of a block of preformatted text, which its second switch ends, and of its links. -/
theorem blockLines_preformatted {block : Node}
    (preformatted : block.tagIs Tag.isPreformatted = true) {front links : List Char}
    (ends : EndsLine front)
    (own : (w.bare block).text = front ++ (toggle ++ "\n\n".toList))
    (written : (w.write block).text = (w.bare block).text ++ links) :
    w.blockLines block =
      (textLines front ++ [toggle]).map (⟨·, true⟩) ++ [.empty] ++ plainLines links := by
  have switch : textLines (toggle ++ "\n\n".toList) = [toggle] ++ [[]] := by decide
  have lines : textLines (w.bare block).text = textLines front ++ [toggle] ++ [[]] := by
    rw [own, textLines_append ends, switch, List.append_assoc]
  have whole : textLines (w.write block).text =
      textLines front ++ [toggle] ++ ([] :: textLines links) := by
    rw [written, textLines_append (bare_tidy w block).endsLine, lines, List.append_assoc]
    rfl
  have count : w.preformattedLines block = (textLines front ++ [toggle]).length := by
    rw [preformattedLines, if_pos preformatted, lines]
    simp
  rw [blockLines, whole, count, List.take_left, List.drop_left, List.append_assoc]
  rfl

end Walk

/-- Preformatted text does not begin with an empty line, and ends with a switch. -/
theorem preformatted_parted {w : Walk} {block : Node}
    (preformatted : block.tagIs Tag.isPreformatted = true) {front links : List Char}
    (ends : EndsLine front) (own : (w.bare block).text = front ++ (toggle ++ "\n\n".toList))
    (written : (w.write block).text = (w.bare block).text ++ links)
    (parted : Parted (plainLines links)) : Parted (w.blockLines block) := by
  rw [Walk.blockLines_preformatted preformatted ends own written]
  refine .append (parted_of_ne_empty (by simp) (fun line member same => ?_) fun last isLast => ?_)
    parted
  · obtain ⟨_, _, rfl⟩ := List.mem_map.mp member
    cases same
  · rw [List.map_append, List.map_singleton, List.getLast?_concat] at isLast
    obtain rfl := Option.some.inj isLast
    decide

theorem headingText_parted (clamp : Option Int) (n : Node) : (headingText clamp n).Parted := by
  unfold headingText
  dsimp only
  split
  · exact nofun
  · cases composed : plainLine false n with
    | error e => exact nofun
    | ok t =>
        refine .line ?_ (by simp)
        simp [plainLine_one_line composed]

theorem paragraph_parted {n : Node} (unbroken : n.Unbroken) :
    (Written.ofExcept ((compose {} false n).map blockOf)).Parted := by
  cases composed : compose {} false n with
  | error e => exact nofun
  | ok t =>
      have one : '\n' ∉ t := no_feed_of_no_break (compose_unbroken unbroken rfl composed)
      change Written.Parted ⟨blockOf t, none⟩
      unfold blockOf
      split
      · exact .nothing
      · next shows =>
          refine .line one ?_
          rintro rfl
          exact shows rfl

/-- Code is written as preformatted text up to its second switch. -/
theorem literalText_front (attrs : Attributes) (source : List Char) :
    ∃ front, EndsLine front ∧ literalText attrs source = front ++ (toggle ++ "\n\n".toList) := by
  have finished (t : List Char) :
      EndsLine (t ++ if t = [] ∨ t.getLast? = some '\n' then [] else ['\n']) := by
    split
    · next ends =>
        rw [List.append_nil]
        rcases ends with rfl | last
        · exact .nil
        · obtain ⟨front, rfl⟩ := List.getLast?_eq_some_iff.mp last
          exact .of_suffix (List.suffix_refl _)
    · exact .of_suffix (List.suffix_refl _)
  let opening := toggle ++ if attrs.fenced.getD true then attrs.info.getD [] else []
  have opened : EndsLine (opening ++ ['\n']) := .of_suffix (List.suffix_refl _)
  refine ⟨_, opened.append (finished (unixBreaks source)), ?_⟩
  simp only [literalText, opening, List.append_assoc]

section Block

variable {w : Walk} {block : Node}

section Lists

variable (unbroken : w.document.Unbroken) (covered : w.document.Covers block)
  (kind : block.tagIs Tag.isPassedThrough = false)
  (lists : block.tagIs Tag.isList = true →
    isLinksOnlyList block.children = true ∨ block.StandsApart)

include unbroken covered kind lists

/-- A block that is neither code nor a table is written in lines of blocks. A list is, if it stands
    apart or is nothing but links. -/
theorem write_parted (plain : block.tagIs Tag.isPreformatted = false) :
    (w.write block).Parted := by
  have links := linkBlock_parted unbroken covered
  have own := unbroken.covers covered
  cases block with
  | text t => exact .nothing
  | element tag attrs children =>
      have list (isList : tag.isList = true) :
          (w.write (.element tag attrs children)).Parted := by
        rw [Walk.write_list isList]
        refine .andThen ?_ links
        split
        · exact .nothing
        · next shown => exact list_parted own ((lists isList).resolve_left shown)
      cases tag with
      | footnote => exact .nothing
      | blockQuote =>
          exact .andThen (Written.closed_parted.quoteChunks fun c member =>
            quoteChunk_parted (own.child member)) links
      | bulletList | enumeratedList | definitionList => exact list rfl
      | heading => exact headingText_parted w.clamp _
      | listItem => exact nofun
      | paragraph =>
          refine .andThen (a := if isLinksOnlyParagraph children then _ else _) ?_ links
          split
          · exact .nothing
          · exact paragraph_parted own
      | raw => cases own.noTag.1
      | transition =>
          have rule : Written.Parted ⟨"---".toList ++ "\n\n".toList, none⟩ :=
            .line (by decide) (by decide)
          exact rule
      | literalBlock | table => cases plain
      | _ => cases kind

/-- So is code, and so is a table. -/
theorem blockLines_parted (ok : (w.write block).error = none) : Parted (w.blockLines block) := by
  cases preformatted : block.tagIs Tag.isPreformatted with
  | false =>
      rw [Walk.blockLines_plain preformatted]
      exact (write_parted unbroken covered kind lists preformatted ok).2
  | true =>
      cases block with
      | text t => cases preformatted
      | element tag attrs children =>
          cases tag with
          | literalBlock =>
              obtain ⟨front, ends, own⟩ := literalText_front attrs
                (Node.element .literalBlock attrs children).source
              exact preformatted_parted preformatted ends own (List.append_nil _).symm .nil
          | table =>
              have written : w.write (.element .table attrs children) =
                  (w.bare (.element .table attrs children)).andThen
                    (linkBlock w.document (.element .table attrs children)) :=
                Walk.write_block (.inr (.inl rfl))
              have own : w.bare (.element .table attrs children) =
                  (tableBody children).andThen ⟨toggle ++ "\n\n".toList, none⟩ :=
                Written.andThen_nothing _
              rw [written] at ok
              obtain ⟨okOwn, okLinks⟩ := Written.andThen_error_eq_none.mp ok
              have drawn : (w.bare (.element .table attrs children)).text =
                  (tableBody children).text ++ (toggle ++ "\n\n".toList) := by
                rw [own] at okOwn ⊢
                exact Written.andThen_text_of_ok (Written.andThen_error_eq_none.mp okOwn).1 _
              refine preformatted_parted preformatted (tableBody_endsLine children) drawn ?_
                (linkBlock_parted unbroken covered okLinks).2
              rw [written, Written.andThen_text_of_ok okOwn]
          | _ => cases preformatted

end Lists

/-- The lines of a block are spaced, but those of a list only if it stands apart or is nothing but
    links. -/
theorem blockLines_spaced (unbroken : w.document.Unbroken) (covered : w.document.Covers block)
    (kind : block.tagIs Tag.isPassedThrough = false) (ok : (w.write block).error = none) :
    Spaced (w.blockLines block) ↔ (block.tagIs Tag.isList = true →
      isLinksOnlyList block.children = true ∨ block.StandsApart) := by
  refine ⟨fun spaced isList => ?_, fun lists =>
    (blockLines_parted unbroken covered kind lists ok).spaced⟩
  cases block with
  | text t => cases isList
  | element tag attrs items =>
      have list : tag.isList = true := isList
      rw [Walk.blockLines_plain (Node.isPreformatted_of_isList isList), Walk.write_list list]
        at spaced
      rw [Walk.write_list list] at ok
      refine or_iff_not_imp_left.mpr fun shown => ?_
      change ¬isLinksOnlyList items = true at shown
      rw [if_neg shown] at ok spaced
      have okItems := (Written.andThen_error_eq_none.mp ok).1
      have okList := (Written.andThen_error_eq_none.mp okItems).1
      rw [Written.andThen_text_of_ok okItems, Written.andThen_text_of_ok okList,
        List.append_assoc] at spaced
      exact standsApart_of_spaced (unbroken.covers covered) okList spaced

/-- Spaced or not, the lines of a block end with an empty one. -/
theorem blockLines_last (unbroken : w.document.Unbroken) (covered : w.document.Covers block)
    (kind : block.tagIs Tag.isPassedThrough = false) (ok : (w.write block).error = none) :
    ∀ last ∈ (w.blockLines block).getLast?, last = .empty := by
  cases preformatted : block.tagIs Tag.isPreformatted with
  | false =>
      rw [Walk.blockLines_plain preformatted]
      exact plainLines_settled ((write_tidy w block).settled ok)
  | true =>
      refine (blockLines_parted unbroken covered kind (fun isList => ?_) ok).last
      rw [Node.isPreformatted_of_isList isList] at preformatted
      cases preformatted

end Block

/-! ## Pages -/

theorem unlines_blockLines (w : Walk) (blocks : List Node) :
    unlines (blocks.flatMap w.blockLines) = blocks.flatMap fun block => (w.write block).text := by
  rw [unlines, List.flatMap_assoc]
  refine List.flatMap_congr fun block _ => ?_
  rw [← flatMap_textLines (write_tidy w block).endsLine, ← w.map_text_blockLines, List.flatMap_map]

/-- A document is built from constructs of which none begins a line, and rendered without metadata.
    Then the page is made of the lines of its blocks. Outside of code and tables these lines do not
    begin with an empty one and have no two of them behind one another exactly if every list that
    shows more than links stands apart. In that case what goes at the end of the page is the last
    empty line alone, so that the page is spaced as well. The converse is about the lines, not about
    the page: of a paragraph `a` and a list whose only item holds an empty list they are `a` and two
    empty ones, and the page `a` is spaced since the empty ones go at its end. -/
theorem blocks_separated {ts : List Markdown.Tree}
    (stays : ∀ kind ∈ Markdown.kindsIn ts, kind.breaksLine = false) {d : Document}
    (built : Document.build? {} ts = .ok d) {settings : Settings} {t : List Char}
    (rendered : render d settings none = .ok t) :
    let w : Walk := ⟨d, none, settings.maxHeadingLevel⟩
    let lines := d.root.blocks.flatMap w.blockLines
    t = endOnce (unlines lines) ∧
      (Spaced lines ↔ ∀ block ∈ d.root.blocks, block.tagIs Tag.isList = true →
        isLinksOnlyList block.children = true ∨ block.StandsApart) ∧
      (Spaced lines → t = unlines lines.dropLast ∧ Spaced lines.dropLast) := by
  intro w lines
  have unbroken : w.document.Unbroken := Document.unbroken_of_built stays built
  obtain ⟨_, ok, same⟩ := render_eq_ok.mp rendered
  change (w.write d.root).error = none at ok
  change endOnce (w.write d.root).text = t at same
  rw [Walk.write_blocks rfl] at ok same
  have each := writeAll_error_eq_none.mp ok
  have covered {block : Node} (member : block ∈ d.root.blocks) : w.document.Covers block := by
    obtain ⟨⟨path, located⟩, _⟩ := Node.mem_blocks member
    intro below m found
    exact .inl ⟨path ++ below, Node.at?_append located found⟩
  have body : unlines lines = (w.writeAll d.root.blocks).text := by
    rw [unlines_blockLines, writeAll_text ok]
  have characterized : Spaced lines ↔ ∀ block ∈ d.root.blocks, block.tagIs Tag.isList = true →
      isLinksOnlyList block.children = true ∨ block.StandsApart := by
    rw [spaced_flatMap fun block member => blockLines_last unbroken (covered member)
      (Node.mem_blocks member).2 (each block member)]
    exact forall₂_congr fun block member => blockLines_spaced unbroken (covered member)
      (Node.mem_blocks member).2 (each block member)
  rw [← body] at same
  refine ⟨same.symm, characterized, fun spaced => ⟨?_, spaced.dropLast⟩⟩
  rw [← same]
  refine endOnce_unlines (.flatMap fun block member => ?_) fun line member => ?_
  · exact blockLines_parted unbroken (covered member) (Node.mem_blocks member).2
      (characterized.mp spaced block member) (each block member)
  · obtain ⟨block, _, inside⟩ := List.mem_flatMap.mp member
    refine not_mem_textLines (t := (w.write block).text) ?_
    rw [← w.map_text_blockLines]
    exact List.mem_map_of_mem inside

/-- Blocks that hold little or nothing: a paragraph of one link, a list of one empty item, an empty
    item in front of another one, a blank paragraph, an empty quote, and code that begins with empty
    lines. -/
theorem blocks_separated_empty :
    let node (kind : Markdown.Kind) (inside : List Markdown.Tree) : Markdown.Tree :=
      .node kind [] inside
    let words (t : String) : Markdown.Tree := .node .text t.toList []
    let ts := [node .paragraph [words "a"],
      node .paragraph [node (.link "/u".toList []) [words "x"]],
      node .bulletList [node .listItem []],
      node .bulletList [node .listItem [], node .listItem [node .paragraph [words "b"],
        node .orderedList [node .listItem [node .paragraph [words "c"]]]]],
      node .paragraph [words " "], node .blockQuote [], .node .codeBlock "\n\nd".toList []]
    ∃ d, (∀ kind ∈ Markdown.kindsIn ts, kind.breaksLine = false) ∧
      Document.build? {} ts = .ok d ∧
      render d {} none = .ok "a\n\n=> /u x\n\n* b\n\t1. c\n\n```\n\n\nd\n```\n".toList ∧
      Spaced (d.root.blocks.flatMap (Walk.blockLines ⟨d, none, none⟩)) := by
  intro node words ts
  let element (tag : Tag) (children : List Node) : Node := .element tag {} children
  let text (t : String) : Node := .text t.toList
  let item (children : List Node) : Node := .element .listItem { term := some false } children
  let d : Document := ⟨[element .paragraph [text "a"],
    element .paragraph [.element .reference { refuri := some "/u".toList } [text "x"]],
    element .bulletList [item []],
    element .bulletList [item [], item [element .paragraph [text "b"],
      element .enumeratedList [item [element .paragraph [text "c"]]]]],
    element .paragraph [text " "], element .blockQuote [],
    .element .literalBlock { fenced := some false, info := some [] } [text "\n\nd"]], []⟩
  have stays : ∀ kind ∈ Markdown.kindsIn ts, kind.breaksLine = false := by decide
  have built : Document.build? {} ts = .ok d := by decide +kernel
  have rendered : render d {} none =
      .ok "a\n\n=> /u x\n\n* b\n\t1. c\n\n```\n\n\nd\n```\n".toList := by
    clear built stays
    dsimp only [d, element, item, text]
    cbv
  exact ⟨d, stays, built, rendered,
    (blocks_separated stays built rendered).2.1.mpr (by decide +kernel)⟩

/-- A list that holds only an empty list leaves an empty line, and so does a term without text. A
    term behind an item without children begins the page with one. -/
theorem list_leaves_empty_line :
    let node (kind : Markdown.Kind) (inside : List Markdown.Tree) : Markdown.Tree :=
      .node kind [] inside
    let paragraph (t : Char) := node .paragraph [.node .text [t] []]
    let hollow := node .bulletList [node .listItem [node .bulletList [node .listItem []]]]
    let page (ts : List Markdown.Tree) := (Document.build? {} ts).bind fun d => render d {} none
    (∀ kind ∈ Markdown.kindsIn [paragraph 'a', hollow, paragraph 'b'], kind.breaksLine = false) ∧
      page [paragraph 'a', hollow, paragraph 'b'] = .ok "a\n\n\nb\n".toList ∧
      ¬Spaced (plainLines "a\n\n\nb\n".toList) ∧
      page [node .definitionList [node .term [], node .description [paragraph 'b']]] =
        .ok "\n* b\n".toList ∧
      page [node .definitionList [node .description [], node .term [.node .text ['a'] []]]] =
        .ok "\na\n".toList ∧
      ¬Spaced (plainLines "\na\n".toList) := by
  intro node paragraph hollow page
  let words (t : Char) : Node := .element .paragraph {} [.text [t]]
  let list (tag : Tag) (items : List Node) : Node := .element tag {} items
  let item (isTerm : Bool) (children : List Node) : Node :=
    .element .listItem { term := some isTerm } children
  have read {ts : List Markdown.Tree} {d : Document} (built : Document.build? {} ts = .ok d)
      {t : List Char} (rendered : render d {} none = .ok t) : page ts = .ok t := by
    simp only [page, built]
    exact rendered
  have twice : ¬Spaced (plainLines "a\n\n\nb\n".toList) := fun spaced =>
    spaced.apart ⟨[⟨['a'], false⟩], [⟨['b'], false⟩], rfl⟩
  refine ⟨by decide, ?_, twice, ?_, ?_, not_spaced_of_gap⟩
  · have built : Document.build? {} [paragraph 'a', hollow, paragraph 'b'] =
        .ok ⟨[words 'a', list .bulletList [item false [list .bulletList [item false []]]],
          words 'b'], []⟩ := by decide +kernel
    refine read built ?_
    dsimp only [words, list, item]
    clear read built
    cbv
  · have built : Document.build? {} [node .definitionList [node .term [],
        node .description [paragraph 'b']]] = .ok ⟨[list .definitionList
          [item true [list .paragraph []], item false [words 'b']]], []⟩ := by decide +kernel
    refine read built ?_
    dsimp only [words, list, item]
    clear read built
    cbv
  · have built : Document.build? {} [node .definitionList [node .description [],
        node .term [.node .text ['a'] []]]] = .ok ⟨[list .definitionList
          [item false [], item true [words 'a']]], []⟩ := by decide +kernel
    refine read built ?_
    dsimp only [words, list, item]
    clear read built
    cbv

end Gemtext
