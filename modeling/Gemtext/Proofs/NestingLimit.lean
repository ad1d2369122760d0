import Gemtext.Convert
import Gemtext.Proofs.Grammar
import Gemtext.Proofs.MarkedWords
import Gemtext.Proofs.PageLines
import Gemtext.Proofs.Register

/-! # The limit of nesting

A word behind quote marks or bullets, from the Markdown text to the page. Markdown has less room
for blocks inside each other than a document may be deep. So a document of such a text is never
refused: where the word stands too deep to be read, it is missing on the page, and no error tells
so.
-/

namespace Gemtext

open Text Markdown

/-! ## Nested blocks -/

/-- A paragraph with a word, or nothing. -/
def wordNodes (shown : Bool) (w : List Char) : List Node :=
  if shown then [.element .paragraph {} [.text w]] else []

/-- Quotes inside each other, with these nodes in the innermost one. -/
def quotes : (count : Nat) → List Node → List Node
  | 0, ns => ns
  | count + 1, ns => [.element .blockQuote {} (quotes count ns)]

/-- A list of one item. -/
def bullet (ns : List Node) : Node :=
  .element .bulletList {} [.element .listItem { term := some false } ns]

/-- Lists of one item inside each other, with these nodes in the innermost one. -/
def bullets : (count : Nat) → List Node → List Node
  | 0, ns => ns
  | count + 1, ns => [bullet (bullets count ns)]

namespace Document

/-! ## Building -/

theorem buildAll_single {kind : Kind} {content : List Char} {ts : List Tree}
    {children nodes : List Node}
    (noTag : kind ≠ .htmlTag) (noNote : kind ≠ .footnote none) (isRead : hasInside kind = true)
    (inside : buildAll (dropDeniedSpans ts) = .ok children)
    (made : nodesOf content children kind = .ok nodes) :
    buildAll (dropDeniedSpans [.node kind content ts]) = .ok nodes := by
  have kept : dropDeniedSpans [.node kind content ts] = [.node kind content ts] :=
    dropDeniedSpans_eq_self (by simpa [Tree.kind] using noTag)
  simp [kept, buildAll, build, noNote, isRead, inside, made]

theorem build_word (shown : Bool) (w : List Char) :
    buildAll (dropDeniedSpans (wordTrees shown w)) = .ok (wordNodes shown w) := by
  cases shown with
  | false => simp [wordTrees, wordNodes, dropDeniedSpans, buildAll]
  | true =>
      have text : buildAll (dropDeniedSpans [.node .text w []]) = .ok [.text w] := by
        have kept : dropDeniedSpans [.node .text w []] = [.node .text w []] :=
          dropDeniedSpans_eq_self (by simp [Tree.kind])
        simp [kept, buildAll, build, hasInside, nodesOf]
      have inline : buildAll (dropDeniedSpans [.node .inline w [.node .text w []]]) = .ok [.text w] :=
        buildAll_single (by decide) (by decide) rfl text rfl
      exact buildAll_single (by decide) (by decide) rfl inline rfl

theorem build_quotes {ts : List Tree} {ns : List Node}
    (inside : buildAll (dropDeniedSpans ts) = .ok ns) (count : Nat) :
    buildAll (dropDeniedSpans (nested (List.replicate count .blockQuote) ts)) =
      .ok (quotes count ns) := by
  induction count with
  | zero => exact inside
  | succ count ih => exact buildAll_single (by decide) (by decide) rfl ih rfl

theorem build_bullets {ts : List Tree} {ns : List Node}
    (inside : buildAll (dropDeniedSpans ts) = .ok ns) (count : Nat) :
    buildAll (dropDeniedSpans
      (nested (List.replicate count [.bulletList, .listItem]).flatten ts)) =
      .ok (bullets count ns) := by
  induction count with
  | zero => exact inside
  | succ count ih =>
      have item : buildAll (dropDeniedSpans [.node .listItem []
          (nested (List.replicate count [.bulletList, .listItem]).flatten ts)]) =
          .ok [.element .listItem { term := some false } (bullets count ns)] :=
        buildAll_single (by decide) (by decide) rfl ih rfl
      exact buildAll_single (by decide) (by decide) rfl item rfl

end Document

/-! ## Depth and links -/

theorem wordNodes_shallow {limit depth : Int} (room : depth + 1 ≤ limit) (shown : Bool)
    (w : List Char) : Node.lastBeyondIn limit depth (wordNodes shown w) = none := by
  have outer : ¬ limit < depth := by omega
  have inner : ¬ limit < depth + 1 := by omega
  cases shown <;> simp [wordNodes, Node.lastBeyondIn, Node.lastBeyond, outer, inner]

theorem quotes_shallow {limit depth : Int} {count : Nat} (room : depth + count + 1 ≤ limit)
    (shown : Bool) (w : List Char) :
    Node.lastBeyondIn limit depth (quotes count (wordNodes shown w)) = none := by
  induction count generalizing depth with
  | zero => exact wordNodes_shallow (by omega) shown w
  | succ count ih =>
      have here : ¬ limit < depth := by omega
      have inside : depth + 1 + count + 1 ≤ limit := by omega
      simp [quotes, Node.lastBeyondIn, Node.lastBeyond, here, ih inside]

theorem bullets_shallow {limit depth : Int} {count : Nat} (room : depth + 2 * count + 1 ≤ limit)
    (shown : Bool) (w : List Char) :
    Node.lastBeyondIn limit depth (bullets count (wordNodes shown w)) = none := by
  induction count generalizing depth with
  | zero => exact wordNodes_shallow (by omega) shown w
  | succ count ih =>
      have list : ¬ limit < depth := by omega
      have item : ¬ limit < depth + 1 := by omega
      have inside : depth + 1 + 1 + 2 * count + 1 ≤ limit := by omega
      simp [bullets, bullet, Node.lastBeyondIn, Node.lastBeyond, list, item, ih inside]

theorem filterAll_wordNodes (shown : Bool) (w : List Char) :
    Node.filterAll (·.tagIs Tag.isLink) (wordNodes shown w) = [] := by
  cases shown <;> rfl

theorem filterAll_quotes (count : Nat) (ns : List Node) :
    Node.filterAll (·.tagIs Tag.isLink) (quotes count ns) =
      Node.filterAll (·.tagIs Tag.isLink) ns := by
  induction count with
  | zero => rfl
  | succ count ih => exact (List.append_nil _).trans ih

theorem filterAll_bullets (count : Nat) (ns : List Node) :
    Node.filterAll (·.tagIs Tag.isLink) (bullets count ns) =
      Node.filterAll (·.tagIs Tag.isLink) ns := by
  induction count with
  | zero => rfl
  | succ count ih => exact ((List.append_nil _).trans (List.append_nil _)).trans ih

/-! ## Writing -/

section Word

variable {w : List Char} (word : IsWord w)

include word

theorem joinLines_word (sep : List Char) : joinLines sep w = w := by
  refine joinLines_eq_self (fun c member => ?_) sep
  have letter := word.letters c member
  simp [isBreak, ne_of_letter letter '\n' rfl, ne_of_letter letter '\r' rfl]

/-- The composed parts of a place that shows a word or nothing. -/
def wordParts (shown : Bool) (w : List Char) : List (List Char) := if shown then [w] else []

omit word in
/-- A block with no marks of its own is composed to what is shown inside it. -/
theorem compose_block {style : Style} {tag : Tag} {attrs : Attributes} {children : List Node}
    {shown : Bool} (block : tag = .paragraph ∨ tag = .blockQuote ∨ tag = .listItem)
    (parts : composeParts style tag.isTextual children = .ok (wordParts shown w)) (inText : Bool) :
    compose style inText (.element tag attrs children) = .ok (if shown then w else []) := by
  have joined : joinParts style children (wordParts shown w) = if shown then w else [] := by
    cases shown <;> simp [joinParts, wordParts, List.intercalate]
  rcases block with rfl | rfl | rfl <;>
    simp [compose, parts, joined, Style.delimiter, Tag.delimiter]

theorem compose_paragraph (style : Style) (inText : Bool) :
    compose style inText (.element .paragraph {} [.text w]) = .ok w := by
  have text : composeParts style true [.text w] = .ok (wordParts true w) := by
    simp [composeParts, compose, joinLines_word word, Node.tagIs, Node.tag?, word.notEmpty, wordParts]
  exact compose_block (.inl rfl) text inText

theorem composeParts_word (style : Style) (inText shown : Bool) :
    composeParts style inText (wordNodes shown w) = .ok (wordParts shown w) := by
  cases shown with
  | false => rfl
  | true =>
      simp [wordNodes, composeParts, compose_paragraph word, word.notEmpty, wordParts, Node.tagIs,
        Node.tag?, Tag.isList]

/-- Quotes inside a quote leave no mark of their own. -/
theorem compose_quotes (style : Style) (inText shown : Bool) (count : Nat) :
    compose style inText (.element .blockQuote {} (quotes count (wordNodes shown w))) =
      .ok (if shown then w else []) := by
  have parts : composeParts style false (quotes count (wordNodes shown w)) =
      .ok (wordParts shown w) := by
    induction count with
    | zero => exact composeParts_word word style false shown
    | succ count ih =>
        have quote : compose style false
            (.element .blockQuote {} (quotes count (wordNodes shown w))) =
            .ok (if shown then w else []) := compose_block (.inr (.inl rfl)) ih false
        cases shown <;>
          simp [quotes, composeParts, quote, word.notEmpty, wordParts, Node.tagIs, Node.tag?,
            Tag.isList]
  exact compose_block (.inr (.inl rfl)) parts inText

theorem quoteChunk_word {child : Node} {shown : Bool}
    (composed : compose { quoted := true } false child = .ok (if shown then w else [])) :
    quoteChunk child = .ok (if shown then "> ".toList ++ w ++ "\n\n".toList else []) := by
  cases shown <;> simp [quoteChunk, composed, Except.map, word.not_blank]

/-- Of nested quotes only the words count. -/
theorem quoteChunks_quotes (shown : Bool) (count : Nat) :
    quoteChunks (quotes count (wordNodes shown w)) =
      ⟨if shown then "> ".toList ++ w ++ "\n\n".toList else [], none⟩ := by
  have chunk {child : Node} (composed : compose { quoted := true } false child =
      .ok (if shown then w else [])) : quoteChunks [child] =
        ⟨if shown then "> ".toList ++ w ++ "\n\n".toList else [], none⟩ := by
    rw [quoteChunks, quoteChunk_word word composed, quoteChunks, Written.andThen_nothing]
    rfl
  cases count with
  | zero =>
      cases shown with
      | false => rfl
      | true => exact chunk (compose_paragraph word _ _)
  | succ count => exact chunk (compose_quotes word _ _ shown count)

theorem write_quotes (walk : Walk) (shown : Bool) (count : Nat) :
    walk.write (.element .blockQuote {} (quotes count (wordNodes shown w))) =
      ⟨if shown then "> ".toList ++ w ++ "\n\n".toList else [], none⟩ := by
  have noLinks : (Node.element .blockQuote {} (quotes count (wordNodes shown w))).links = [] :=
    (filterAll_quotes count _).trans (filterAll_wordNodes shown w)
  rw [Walk.write, linkBlock_of_no_links noLinks, Written.andThen_nothing, quoteChunks_quotes word]

/-- The line of an item with a word, if it is shown. -/
def itemText (shown : Bool) (level : Nat) (w : List Char) : List Char :=
  if shown then List.replicate level '\t' ++ "* ".toList ++ w ++ ['\n'] else []

theorem listItem_word (shown : Bool) (level : Nat) :
    listItem false level 1 (.element .listItem { term := some false } (wordNodes shown w)) =
      ⟨itemText shown level w, none⟩ := by
  cases shown with
  | false => rfl
  | true =>
      have composed : compose {} false
          (.element .listItem { term := some false } (wordNodes true w)) = .ok w :=
        compose_block (.inr (.inr rfl)) (composeParts_word word {} false true) false
      have head : itemHead false level 1 { term := some false } (wordNodes true w) =
          ⟨itemText true level w, none⟩ := by
        simp [itemHead, composed, joinLines_word word, itemLine, itemMarker, itemText, word.notEmpty]
      have none : innerLists (level + 1) (wordNodes true w) = .nothing := rfl
      have some : (wordNodes true w).isEmpty = false := rfl
      simp [listItem, some, head, none, Written.andThen_nothing]

omit word in
/-- An item that only holds a list has no line of its own. -/
theorem listItem_bullet (level : Nat) (ns : List Node) :
    listItem false level 1 (.element .listItem { term := some false } [bullet ns]) =
      listItem false (level + 1) 1 (.element .listItem { term := some false } ns) := by
  have head : itemHead false level 1 { term := some false } [bullet ns] = .nothing := by
    simp [itemHead, compose, composeParts, joinParts, Style.delimiter, Tag.delimiter, itemLine,
      bullet, Node.tagIs, Node.tag?, Tag.isList, List.intercalate, Written.nothing]
  have inside : innerLists (level + 1) [bullet ns] =
      listItem false (level + 1) 1 (.element .listItem { term := some false } ns) := by
    rw [innerLists, bullet, innerList, if_pos (show Tag.bulletList.isList = true from rfl),
      innerLists, Written.andThen_nothing, listItems, listItems, Written.andThen_nothing]
    rfl
  rw [listItem, if_neg (by decide), if_neg (by simp), head, Written.nothing_andThen, inside]

theorem listItem_bullets (shown : Bool) (level count : Nat) :
    listItem false level 1
        (.element .listItem { term := some false } (bullets count (wordNodes shown w))) =
      ⟨itemText shown (level + count) w, none⟩ := by
  induction count generalizing level with
  | zero => exact listItem_word word shown level
  | succ count ih => rw [bullets, listItem_bullet, ih, Nat.add_assoc, Nat.add_comm 1]

/-- A list is written as its words, unless it is a single empty item. -/
theorem write_bullets (walk : Walk) {shown : Bool} {count : Nat}
    (some : shown = true ∨ 0 < count) :
    walk.write (bullet (bullets count (wordNodes shown w))) =
      ⟨itemText shown count w ++ ['\n'], none⟩ := by
  have noLinks : (bullet (bullets count (wordNodes shown w))).links = [] :=
    (List.append_nil _).symm.trans
      ((filterAll_bullets (count + 1) _).trans (filterAll_wordNodes shown w))
  have item := listItem_bullets word shown 0 count
  have words : isLinksOnlyList
      [.element .listItem { term := .some false } (bullets count (wordNodes shown w))] = false := by
    cases count with
    | zero =>
        obtain rfl : shown = true := some.resolve_right (Nat.lt_irrefl 0)
        simp [isLinksOnlyList, bullets, wordNodes, isLinksOnlyParagraph, Node.children,
          word.not_blank]
    | succ count =>
        simp [isLinksOnlyList, bullets, bullet, Node.children, Node.hasTag, Node.tagIs, Node.tag?]
  rw [bullet] at noLinks ⊢
  rw [Walk.write, linkBlock_of_no_links noLinks, Written.andThen_nothing, words, listItems,
    listItems, Written.andThen_nothing,
    show (Tag.bulletList == Tag.enumeratedList) = false from rfl, item]
  simp [Written.andThen]

theorem endOnce_word (before : List Char) :
    endOnce (before ++ w ++ "\n\n".toList) = before ++ w ++ ['\n'] := by
  obtain ⟨rest, c, rfl⟩ := (List.eq_nil_or_concat w).resolve_left word.notEmpty
  have letter := word.letters c (by simp)
  simp [endOnce, dropEndBreaks, dropEndWhile, ne_of_letter letter '\n' rfl]

/-! ## Pages -/

omit word in
/-- A text that is read as one block is converted to what is written for it. -/
theorem convert_single {t page : List Char} {trees : List Tree} {n : Node}
    (isRead : read? t = .ok trees) (built : Document.buildAll (dropDeniedSpans trees) = .ok [n])
    (shallow : Node.lastBeyondIn 100 1 [n] = none)
    (written : ∀ walk : Walk, walk.write n = ⟨page, none⟩) :
    convert t {} none = .ok (endOnce page) := by
  let d := ({} : Document).appendBuilt [n]
  have children : d.children = [n] := Document.appendBuilt_children {} [n]
  have made : Document.ofMarkdown? t = .ok d := by
    simp [Document.ofMarkdown?, Document.addMarkdown?, isRead, Except.bind, Document.build?, built,
      Except.map, d]
  have admitted : d.checkDepth ({} : Settings).maxNestingDepth = .ok () := by
    simp [Document.checkDepth, Document.root, children, Node.lastBeyond, shallow]
  have walked : (Page.begin {} none).walk d d.root =
      ({ Page.begin {} none with body := page }, none) := by
    simp [Page.walk, Document.root, children, Walk.write, Walk.writeAll, written,
      Written.andThen, Written.nothing, Page.begin]
  simp [convert, made, Except.bind, render, admitted, walked, Page.text]

theorem convert_quotes {count : Nat} (some : 0 < count) :
    convert (marked '>' count w) {} none =
      .ok (if count < 20 then "> ".toList ++ w ++ ['\n'] else []) := by
  obtain ⟨inner, room⟩ : ∃ inner, min count blockRoom = inner + 1 :=
    Nat.exists_eq_succ_of_ne_zero (by simp only [blockRoom]; omega)
  have isRead := read?_quotes word count
  rw [room] at isRead
  have built := Document.build_quotes (Document.build_word (count < blockRoom) w) (inner + 1)
  have shallow : Node.lastBeyondIn 100 1 (quotes (inner + 1) (wordNodes (count < blockRoom) w)) =
      none := quotes_shallow (by simp only [blockRoom] at room; omega) _ w
  rw [convert_single isRead built shallow fun walk => write_quotes word walk _ inner]
  split_ifs with near near' near'
  · rw [endOnce_word word]
  · exact absurd (of_decide_eq_true near) near'
  · exact absurd (decide_eq_true near') near
  · rfl

theorem convert_bullets {count : Nat} (some : 0 < count) :
    convert (marked '*' count w) {} none =
      .ok (if count < 10 then List.replicate (count - 1) '\t' ++ "* ".toList ++ w ++ ['\n']
        else ['\n']) := by
  obtain ⟨inner, room⟩ : ∃ inner, min count ((blockRoom + 1) / 2) = inner + 1 :=
    Nat.exists_eq_succ_of_ne_zero (by simp only [blockRoom]; omega)
  have isRead := read?_bullets word count
  rw [room] at isRead
  have built := Document.build_bullets
    (Document.build_word (count < (blockRoom + 1) / 2) w) (inner + 1)
  have shallow : Node.lastBeyondIn 100 1
      (bullets (inner + 1) (wordNodes (count < (blockRoom + 1) / 2) w)) = none :=
    bullets_shallow (by simp only [blockRoom] at room; omega) _ w
  have some : decide (count < (blockRoom + 1) / 2) = true ∨ 0 < inner := by
    rw [decide_eq_true_iff]
    simp only [blockRoom] at room ⊢
    omega
  rw [convert_single isRead built shallow fun walk => write_bullets word walk some]
  by_cases near : count < 10
  · have whole : inner = count - 1 := by
      simp only [blockRoom] at room
      omega
    have shown : decide (count < (blockRoom + 1) / 2) = true := decide_eq_true near
    rw [shown, whole, if_pos near, itemText, if_pos rfl]
    simpa using endOnce_word word (List.replicate (count - 1) '\t' ++ "* ".toList)
  · have hidden : decide (count < (blockRoom + 1) / 2) = false := decide_eq_false near
    rw [hidden, if_neg near, itemText, if_neg Bool.false_ne_true]
    rfl

end Word

/-- A word behind quote marks is on the page if there are less than twenty of them, and a word
behind bullets if there are less than ten. Otherwise the page is blank, and no error tells so. -/
theorem convert_nested_word {w : List Char} (word : IsWord w) {count : Nat} (some : 0 < count) :
    convert (marked '>' count w) {} none =
        .ok (if count < 20 then "> ".toList ++ w ++ ['\n'] else []) ∧
      convert (marked '*' count w) {} none =
        .ok (if count < 10 then List.replicate (count - 1) '\t' ++ "* ".toList ++ w ++ ['\n']
          else ['\n']) :=
  ⟨convert_quotes word some, convert_bullets word some⟩

/-- Nine marks are not too many for either. -/
theorem convert_nested_word_letter :
    IsWord ['w'] ∧ 0 < 9 ∧
      convert (marked '>' 9 ['w']) {} none = .ok "> w\n".toList ∧
      convert (marked '*' 9 ['w']) {} none = .ok "\t\t\t\t\t\t\t\t* w\n".toList := by
  have word : IsWord ['w'] := ⟨by decide, List.all_eq_true.mp (by decide +kernel)⟩
  exact ⟨word, by decide, convert_nested_word word (by decide)⟩

/-- Twenty quote marks before a word hide it, though the document is not refused. -/
theorem word_behind_quotes_is_dropped :
    ¬ ((∃ page, convert (marked '>' 20 ['w']) {} none = .ok page ∧ ['w'] <:+: page) ∨
      ∃ cause n, convert (marked '>' 20 ['w']) {} none = .error (.malformed cause n)) := by
  have word : IsWord ['w'] := ⟨by decide, List.all_eq_true.mp (by decide +kernel)⟩
  rw [convert_quotes word (by decide), if_neg (by decide)]
  rintro (⟨page, blank, holds⟩ | ⟨cause, n, refused⟩)
  · obtain rfl := Except.ok.inj blank
    exact absurd holds (by decide)
  · cases refused

end Gemtext
