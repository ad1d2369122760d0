import Gemtext.Markdown.Leaf

/-! # Blocks with blocks inside

Quotes, lists, definitions of notes and lists of descriptions take their markers from the
lines and have the rest read by `inner`, the way to read blocks one level or two further
down. A quote takes its markers from every line; the others take one from the first line
and go on while lines are indented.

The lines after a block are the lines as they were before its markers were taken. So blocks
tell how many lines they take, and not what is left.
-/

namespace Gemtext.Markdown

open Text

/-- A way to read the blocks that some lines begin with. -/
abbrev Blocks := Around → List Line → Block

/-- What is left of a line: `text`, which stands `start` columns behind the base of the line
and from now on counts its tabs from `base`. -/
def Line.leave (text : List Char) (start base : Nat) (l : Line) : Line where
  text := text
  shift := blankCount text
  indent := blankWidth (l.base + start) text
  base := base
  ended := l.ended

/-- What is left of a line behind the mark of a quote, with the blank that may follow the mark
taken away. A tab that is wider than one column stays, one column narrower. -/
def Line.unquote (behind : List Char) (l : Line) : Line :=
  let column := l.indent.toNat + 1
  match behind with
  | ' ' :: text => l.leave text (column + 1) (column + 1)
  | '\t' :: text =>
    l.leave (if (l.base + column) % 4 = 3 then text else behind) (column + 1) (column + 1)
  | _ => l.leave behind column column

namespace Block

/-- Puts a construct around the events of a block. -/
def within (kind : Kind) (b : Block) : Block :=
  ⟨.opening kind :: b.events ++ [.closing], b.height⟩

def append (b more : Block) : Block := ⟨b.events ++ more.events, b.height + more.height⟩

/-- The lines of a quote behind its first one, which was empty or not. A line without a
mark belongs to the quote if it may go on with a paragraph. -/
def quotedLines (a : Around) (afterEmpty : Bool) : List Line → List Line
  | [] => []
  | l :: rest =>
    match l.content with
    | [] => []
    | c :: t =>
      if c == '>' && !a.isOutside l then
        let inside := l.unquote t
        inside :: quotedLines a inside.isEmpty rest
      else if afterEmpty || interrupts a .quote l rest then []
      else { l with indent := -1 } :: quotedLines a false rest

def quote? (inner : Blocks) (a : Around) (l : Line) (rest : List Line) : Option Block :=
  match l.content with
  | '>' :: t =>
    if a.isCode l then none
    else
      let first := l.unquote t
      some (within .blockQuote
        (inner { a with indent := 0 } (first :: quotedLines a first.isEmpty rest)))
  | _ => none

/-- The blocks of a list item. One that begins with two empty lines is empty. -/
def item (inner : Blocks) (a : Around) (m : Marker) (l : Line) (rest : List Line) : Block :=
  let column := l.indent.toNat + m.width
  let behind := l.content.drop m.width
  let width := blankWidth (l.base + column) behind
  let isEmpty := behind.all isSpace
  if isEmpty && rest.head?.all Line.isEmpty then ⟨[], min 2 (rest.length + 1)⟩
  else
    inner
      { a with
        indent := column + if isEmpty || 4 < width then 1 else width
        list := some a.indent }
      ({ l with shift := l.shift + m.width + blankCount behind, indent := column + width } ::
        rest)

/-- The items of a list that `first` began, after some lines that are taken already. -/
def items (inner : Blocks) (a : Around) (first : Marker) : (taken : Nat) → List Line → Block
  | _, [] => ⟨[], 0⟩
  | taken + 1, _ :: rest =>
    let more := items inner a first taken rest
    ⟨more.events, more.height + 1⟩
  | 0, l :: rest =>
    match marker? l.content with
    | none => ⟨[], 0⟩
    | some m =>
      if a.isOutside l || a.isCode l || interrupts a .list l rest || !first.goesOn m then
        ⟨[], 0⟩
      else
        let b := within .listItem (item inner a m l rest)
        let more := items inner a first (b.height - 1) rest
        ⟨b.events ++ more.events, more.height + 1⟩

def list? (inner : Blocks) (a : Around) (l : Line) (rest : List Line) : Option Block :=
  if a.isCode l || !a.admitsItem l then none
  else
    (marker? l.content).map fun m =>
      within (if m.number.isSome then .orderedList else .bulletList)
        (items inner a m 0 (l :: rest))

/-- The definition of a note. Its content is indented by four columns; the first line always
belongs to it. -/
def noteDefinition? (inner : Blocks) (a : Around) (l : Line) (rest : List Line) :
    Option Block :=
  if a.isCode l then none
  else
    (Markdown.noteDefinition? l.content).map fun (label, behind) =>
      let indent := a.indent + 4
      let width := blankWidth (l.indent.toNat + label.length + 4) behind
      let first : Line :=
        { l with
          text := behind
          shift := blankCount behind
          indent := if width < indent then width + indent else width }
      let b := inner { a with indent } (first :: rest)
      ⟨.noteOpening label :: b.events ++ [.noteClosing], b.height⟩

/-- A description, given the rest of its first line behind the mark. -/
def description (inner : Blocks) (a : Around) (behind : List Char) (l : Line)
    (rest : List Line) : Block :=
  let column := l.indent.toNat + 1
  within .description
    (inner { a with indent := column + 1, inDescription := true }
      ({ l with
          shift := l.shift + 1 + blankCount behind
          indent := column + blankWidth column behind } :: rest))

def term (a : Around) (l : Line) : Block := ofInline .term (textOf a.indent false [l]) 1

/-- How many empty lines stand between a term and its description, none or one, and the
lines from the description on. -/
def behindTerm? (a : Around) (ls : List Line) : Option (Nat × List Line) :=
  let (gap, ls) :=
    match ls with
    | l :: rest => if l.isEmpty then (1, rest) else (0, ls)
    | [] => (0, [])
  match ls with
  | [] => none
  | l :: _ =>
    if !a.isOutside l && (Markdown.description? l.content).isSome then some (gap, ls) else none

/-- The descriptions that some lines begin with, and the terms and descriptions that follow.
The fuel is the number of lines. -/
def descriptions (inner : Blocks) (a : Around) : (fuel : Nat) → List Line → Block
  | 0, _ | _, [] => ⟨[], 0⟩
  | fuel + 1, l :: rest =>
    match Markdown.description? l.content with
    | none => ⟨[], 0⟩
    | some behind =>
      let b := description inner a behind l rest
      match (l :: rest).drop b.height with
      | [] => b
      | m :: more =>
        if a.isOutside m then b
        else if (Markdown.description? m.content).isSome then
          b.append (descriptions inner a fuel (m :: more))
        else if m.isEmpty then b
        else
          match behindTerm? a more with
          | none => b
          | some (gap, ls) =>
            (b.append (term a m)).append ((Block.mk [] gap).append (descriptions inner a fuel ls))

def descriptionList? (inner : Blocks) (a : Around) (l : Line) (rest : List Line) :
    Option Block :=
  if a.isCode l then none
  else
    (behindTerm? a rest).map fun (gap, ls) =>
      within .definitionList
        ((term a l).append ((Block.mk [] gap).append (descriptions inner a ls.length ls)))

end Block

end Gemtext.Markdown
