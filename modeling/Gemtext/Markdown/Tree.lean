import Gemtext.Html.Denied

/-! # Markdown trees

A Markdown text read as a tree of constructs. Blocks and inline constructs share one type:
what a construct is, its content as written where it has one, and the constructs inside it.

Raw HTML in inline text comes as single tags, each a construct of its own among its
siblings. A denied span is an opening tag of a denied element, the siblings behind it, and
the first closing tag of that element. Such spans are dropped, tags included. An opening
tag that is never closed stays, and so does everything behind it.
-/

namespace Gemtext.Markdown

open Text

inductive Kind where
  /-- Stands for the constructs inside it. -/
  | group
  | paragraph
  /-- The inline text of a block. -/
  | inline
  /-- A heading with its tag, a letter and its level. -/
  | heading (tag : List Char)
  | blockQuote
  | bulletList
  | orderedList
  | listItem
  | fence (info : List Char)
  | codeBlock
  | rule
  | htmlBlock
  | table
  | tableHead
  | tableBody
  | tableRow
  | tableCell (style : List Char)
  | definitionList
  | term
  | description
  | footnoteBlock
  | footnote (index : Option Int)
  | footnoteReference (index : Option Int)
  | text
  | softBreak
  | hardBreak
  | code
  | emphasis
  | strong
  | strikethrough
  | link (href title : List Char)
  | image (src : List Char)
  /-- A single tag or other piece of raw HTML in inline text. -/
  | htmlTag
  /-- A construct that has no place in documents. -/
  | other
  deriving DecidableEq, Repr

/-- A construct with its content and the constructs inside it. -/
inductive Tree where
  | node (kind : Kind) (content : List Char) (children : List Tree)
  deriving Repr

namespace Tree

def kind : Tree → Kind
  | node kind _ _ => kind

def content : Tree → List Char
  | node _ content _ => content

def children : Tree → List Tree
  | node _ _ children => children

end Tree

/-- The name of a tag, in lower case, and whether it is a closing tag. -/
def tagName? : (t : List Char) → Option (List Char × Bool)
  | '<' :: t =>
    let t := t.dropWhile isWhite
    let closing := t.head? == some '/'
    match if closing then (t.drop 1).dropWhile isWhite else t with
    | [] => none
    | c :: rest =>
      if c.isAlpha then
        some ((c :: rest.takeWhile fun d => d.isAlphanum || d == '-').map Char.toLower, closing)
      else none
  | _ => none

def Tree.tag? (n : Tree) : Option (List Char × Bool) :=
  if n.kind = .htmlTag then tagName? n.content else none

/-- The name of the denied element that a construct opens. -/
def Tree.opensDenied? (n : Tree) : Option (List Char) :=
  match n.tag? with
  | some (name, false) => if Html.isDenied name then some name else none
  | _ => none

/-- Whether a construct is the closing tag of this element. -/
def Tree.closes (name : List Char) (n : Tree) : Bool := n.tag? == some (name, true)

/-- The siblings behind the first closing tag of an element. -/
def behindClosing? (name : List Char) : List Tree → Option (List Tree)
  | [] => none
  | n :: rest => if n.closes name then some rest else behindClosing? name rest

theorem behindClosing?_length {name : List Char} {ns rest : List Tree}
    (h : behindClosing? name ns = some rest) : rest.length < ns.length := by
  induction ns with
  | nil => cases h
  | cons n ns ih =>
    rw [behindClosing?] at h
    split at h
    · exact Option.some.inj h ▸ Nat.lt_succ_self _
    · exact Nat.lt_succ_of_lt (ih h)

/-- Siblings without the denied spans among them. -/
def dropDeniedSpans : List Tree → List Tree
  | [] => []
  | n :: rest =>
    match n.opensDenied? with
    | none => n :: dropDeniedSpans rest
    | some name =>
      match _h : behindClosing? name rest with
      | some behind => dropDeniedSpans behind
      | none => n :: rest
termination_by ns => ns.length
decreasing_by
  · exact Nat.lt_succ_self _
  · exact Nat.lt_succ_of_lt (behindClosing?_length _h)

theorem behindClosing?_sublist {name : List Char} {ns rest : List Tree}
    (h : behindClosing? name ns = some rest) : rest.Sublist ns := by
  induction ns with
  | nil => cases h
  | cons n ns ih =>
    rw [behindClosing?] at h
    split at h
    · exact Option.some.inj h ▸ List.sublist_cons_self n ns
    · exact (ih h).trans (List.sublist_cons_self n ns)

/-- Dropping spans adds nothing and moves nothing. -/
theorem dropDeniedSpans_sublist (ns : List Tree) : (dropDeniedSpans ns).Sublist ns := by
  fun_induction dropDeniedSpans ns with
  | case1 => exact List.Sublist.refl _
  | case2 n rest _ ih => exact ih.cons_cons n
  | case3 n rest name _ behind h ih =>
    exact ih.trans ((behindClosing?_sublist h).trans (List.sublist_cons_self n rest))
  | case4 n rest => exact List.Sublist.refl _

end Gemtext.Markdown
