import Gemtext.Depth
import Gemtext.LinkLine
import Gemtext.Links
import Gemtext.Metadata
import Gemtext.Settings
import Gemtext.Table

/-! # Rendering

A document is written block by block. Each block is followed by an empty line, and the
links inside it are hoisted into lines of their own behind it: footnotes first, then
images, then references. Only the outermost block that holds a link hoists it. A block
that is nothing but links leaves only the link lines.

Writing a block can fail midway. What was written until then stays written, so writing
gives a text and perhaps an error, and what follows an error is not written.
-/

namespace Gemtext

open Text

/-! ## Writing that may fail -/

/-- What was written, and why writing stopped, if it did. -/
structure Written where
  text : List Char
  error : Option Error := none
  deriving DecidableEq, Repr

namespace Written

def nothing : Written := ⟨[], none⟩

/-- Stops at an error. -/
def fail (e : Error) : Written := ⟨[], some e⟩

/-- Writes one text behind another. The second is not written if the first one failed. -/
def andThen (first second : Written) : Written :=
  match first.error with
  | some e => ⟨first.text, some e⟩
  | none => ⟨first.text ++ second.text, second.error⟩

/-- Writes what a result holds, or stops at its error. -/
def ofExcept : Except Error (List Char) → Written
  | .ok t => ⟨t, none⟩
  | .error e => fail e

end Written

/-! ## Link blocks -/

/-- A paragraph is links-only if it holds nothing but links, images and blank text. -/
def isLinksOnlyParagraph (children : List Node) : Bool :=
  children.all fun
    | .text t => isBlank t
    | .element tag _ _ => tag.isLink

/-- A list is links-only if all its items hold nothing but links-only paragraphs. -/
def isLinksOnlyList (items : List Node) : Bool :=
  items.all fun item =>
    item.hasTag .listItem &&
      item.children.all fun c => c.hasTag .paragraph && isLinksOnlyParagraph c.children

/-- The line of a link, none if its destination is empty. -/
def linkLine (d : Document) (link : Node) : Except Error (Option (List Char)) :=
  if link.hasTag .footnoteReference then
    match d.resolve link with
    | .error e => .error e
    | .ok entry =>
      match link.attrs.noteid with
      | none => .error (.missing "noteid".toList)
      | some number =>
        match label false entry.node with
        | .error e => .error e
        | .ok t => (footnoteLine number t).map some
  else
    let uri := if link.hasTag .image then link.attrs.uri else link.attrs.refuri
    match label false link with
    | .error e => .error e
    | .ok t =>
      if uri = some [] then .ok none
      else (LinkLine.render ⟨some link, uri, some t⟩).map some

/-- The lines of links, without those that have an empty destination. -/
def linkLines (d : Document) : List Node → Except Error (List (List Char))
  | [] => .ok []
  | link :: rest =>
    match linkLine d link with
    | .error e => .error e
    | .ok line => (linkLines d rest).map (line.toList ++ ·)

/-- The lines of the links of one kind, followed by an empty line if there are any. -/
def linkGroup (d : Document) (links : List Node) (kind : Tag) : Written :=
  .ofExcept ((linkLines d (links.filter (·.hasTag kind))).map fun lines =>
    if lines.isEmpty then [] else ['\n'].intercalate lines ++ "\n\n".toList)

def linkBlock (d : Document) (n : Node) : Written :=
  match d.links n with
  | .error e => .fail e
  | .ok links =>
    ((linkGroup d links .footnoteReference).andThen (linkGroup d links .image)).andThen
      (linkGroup d links .reference)

/-! ## Quotes -/

/-- The chunk that a child of a quote is written as. Blank text leaves none. -/
def quoteChunk (child : Node) : Except Error (List Char) :=
  (compose { quoted := true } false child).map fun t =>
    if isBlank t then [] else "> ".toList ++ t ++ "\n\n".toList

def quoteChunks : List Node → Written
  | [] => .nothing
  | child :: rest => (Written.ofExcept (quoteChunk child)).andThen (quoteChunks rest)

/-! ## Lists -/

/-- What stands before the text of a list item. -/
def itemMarker (ordered isTerm : Bool) (number : Nat) : List Char :=
  if ordered then decimal number ++ ". ".toList else if isTerm then [] else "* ".toList

/-- The line of a list item, with an empty line before a term that is not the first item.
An item without text that begins with a list has no line. -/
def itemLine (ordered : Bool) (level number : Nat) (isTerm : Bool) (children : List Node)
    (text : List Char) : List Char :=
  (if isTerm ∧ 1 < number then ['\n'] else []) ++
    (if text = [] ∧ (children.head?.any (·.tagIs Tag.isList)) = true then []
      else List.replicate level '\t' ++ itemMarker ordered isTerm number ++ text ++ ['\n'])

/-- The line of an item that stands before the lists inside it. The text of an item is
composed on one line, since a hard break would begin a line without a marker. -/
def itemHead (ordered : Bool) (level number : Nat) (attrs : Attributes) (children : List Node) :
    Written :=
  let isTerm := attrs.term.getD false
  match compose {} false (.element .listItem attrs children) with
  | .error e => ⟨if isTerm ∧ 1 < number then ['\n'] else [], some e⟩
  | .ok t => ⟨itemLine ordered level number isTerm children (joinLines [' '] t), none⟩

mutual
/-- Writes the items of a list at a nesting level, the first of which has the given number.
Items without children leave no line, but count. -/
def listItems (ordered : Bool) (level : Nat) : (number : Nat) → List Node → Written
  | _, [] => .nothing
  | number, item :: rest =>
    (listItem ordered level number item).andThen (listItems ordered level (number + 1) rest)

/-- Writes one item of a list, with the lists inside it. -/
def listItem (ordered : Bool) (level number : Nat) : Node → Written
  | .text t => .fail (.malformed .strayListChild (some (.text t)))
  | .element tag attrs children =>
    if tag ≠ .listItem then
      .fail (.malformed .strayListChild (some (.element tag attrs children)))
    else if children.isEmpty then .nothing
    else
      (itemHead ordered level number attrs children).andThen (innerLists (level + 1) children)

/-- Writes the lists among the children of an item. -/
def innerLists (level : Nat) : List Node → Written
  | [] => .nothing
  | child :: rest => (innerList level child).andThen (innerLists level rest)

/-- Writes a child of an item if it is a list. -/
def innerList (level : Nat) : Node → Written
  | .text _ => .nothing
  | .element tag _ items =>
    if tag.isList then listItems (tag == .enumeratedList) level 1 items else .nothing
end

/-! ## Tables -/

def rowCells : List Node → Except Error (List (List Char))
  | [] => .ok []
  | entry :: rest =>
    match plainLine false entry with
    | .error e => .error e
    | .ok cell => (rowCells rest).map (cell :: ·)

mutual
/-- The rows of a tree in document order, each with whether it stands in a table head.
`inHead` tells whether the parent of the tree is one. -/
def rowsOf (inHead : Bool) : Node → List (Bool × List Node)
  | .text _ => []
  | .element tag _ children =>
    (if tag = .row then [(inHead, children)] else []) ++ rowsIn (tag == .thead) children

def rowsIn (inHead : Bool) : List Node → List (Bool × List Node)
  | [] => []
  | n :: rest => rowsOf inHead n ++ rowsIn inHead rest
end

def cellAlign (cell : Node) : Align :=
  match cell.attrs.align with
  | some t =>
    if t = "right".toList then .right else if t = "center".toList then .center else .left
  | none => .left

/-- The alignments of the columns: each column is aligned as its first cell asks. -/
def columnAligns : List (List Node) → List Align
  | [] => []
  | row :: rest =>
    let aligns := row.map cellAlign
    aligns ++ (columnAligns rest).drop aligns.length

def allCells : List (Bool × List Node) → Except Error (List (Bool × List (List Char)))
  | [] => .ok []
  | row :: rest =>
    match rowCells row.2 with
    | .error e => .error e
    | .ok cells => (allCells rest).map ((row.1, cells) :: ·)

/-- The table that a table node holds, its header rows first. -/
def tableOf (children : List Node) : Except Error Table :=
  let rows := rowsIn false children
  (allCells rows).map fun cells =>
    let header := cells.filter (·.1)
    { rows := header.map Prod.snd ++ (cells.filter (!·.1)).map Prod.snd
      headerRows := header.length
      aligns := columnAligns (rows.map Prod.snd) }

/-- The line that opens and closes preformatted text. -/
def toggle : List Char := List.replicate 3 '\x60'

/-- A table as preformatted text, up to its closing line. -/
def tableBody (children : List Node) : Written :=
  .ofExcept ((tableOf children).map fun table =>
    let drawing := table.draw
    toggle ++ ['\n'] ++ drawing ++ if drawing.isEmpty then [] else ['\n'])

/-! ## Single blocks -/

/-- A literal block as preformatted text, with its info string if it was fenced. -/
def literalText (attrs : Attributes) (source : List Char) : List Char :=
  let t := unixBreaks source
  toggle ++ (if attrs.fenced.getD true then attrs.info.getD [] else []) ++ ['\n'] ++ t ++
    (if t = [] ∨ t.getLast? = some '\n' then [] else ['\n']) ++ toggle ++ "\n\n".toList

def headingText (clamp : Option Int) (n : Node) : Written :=
  let level := n.attrs.level.getD 0
  if level < 1 then .fail (.malformed (.headingLevel level) (some n))
  else .ofExcept ((plainLine false n).map fun t =>
    List.replicate (clampLevel clamp level).toNat '#' ++ [' '] ++ t ++ "\n\n".toList)

/-- A text as a block of its own. Blank text leaves none. -/
def blockOf (t : List Char) : List Char := if isBlank t then [] else t ++ "\n\n".toList

/-- Raw content as a block: what is meant for this format stands as it is, and of raw HTML
the plain text. -/
def rawText (attrs : Attributes) (source : List Char) : Except Error (List Char) :=
  let formats := attrs.formats
  if formats.contains "gemtext".toList || formats.contains "gmi".toList then
    .ok (if isBlank source then [] else dropEndBreaks source ++ "\n\n".toList)
  else if formats.contains "html".toList then
    match Html.plainText ['\n'] source with
    | .error e => .error (.rejected e)
    | .ok t =>
      .ok (if isBlank (trim t) then [] else dropEndBreaks (trim t) ++ "\n\n".toList)
  else .ok []

/-! ## The walk over a tree -/

/-- What a walk needs to know: the document, for footnotes, the metadata for its header,
and the clamp on heading levels. -/
structure Walk where
  document : Document
  metadata : Option Metadata := none
  clamp : Option Int := none

namespace Walk

mutual
/-- Writes a node. Text and elements that are no blocks of their own write nothing
themselves, but what is inside them is written. -/
def write (w : Walk) : Node → Written
  | .text _ => .nothing
  | .element tag attrs children =>
    let n := Node.element tag attrs children
    match tag with
    | .footnote => .nothing
    | .blockQuote => (quoteChunks children).andThen (linkBlock w.document n)
    | .bulletList | .enumeratedList | .definitionList =>
      (if isLinksOnlyList children then Written.nothing
        else (listItems (tag == .enumeratedList) 0 1 children).andThen ⟨['\n'], none⟩).andThen
        (linkBlock w.document n)
    | .document =>
      Written.andThen ⟨(w.metadata.map Metadata.header).getD [], none⟩ (w.writeAll children)
    | .heading => headingText w.clamp n
    | .listItem => .fail (.malformed .strayListItem (some n))
    | .literalBlock => ⟨literalText attrs n.source, none⟩
    | .paragraph =>
      (if isLinksOnlyParagraph children then Written.nothing
        else Written.ofExcept ((compose {} false n).map blockOf)).andThen (linkBlock w.document n)
    | .raw => .ofExcept (rawText attrs n.source)
    | .table =>
      ((tableBody children).andThen ⟨toggle ++ "\n\n".toList, none⟩).andThen
        (linkBlock w.document n)
    | .transition => ⟨"---\n\n".toList, none⟩
    | _ => w.writeAll children

def writeAll (w : Walk) : List Node → Written
  | [] => .nothing
  | n :: rest => (w.write n).andThen (w.writeAll rest)
end

end Walk

/-- A page that is written by several walks over parts of a document. It takes its metadata
and clamp when it is begun, and what a walk wrote before it failed stays. -/
structure Page where
  metadata : Option Metadata := none
  clamp : Option Int := none
  body : List Char := []

namespace Page

def begin (settings : Settings) (metadata : Option Metadata) : Page :=
  { metadata := metadata, clamp := settings.maxHeadingLevel }

def text (p : Page) : List Char := endOnce p.body

/-- Walks over a node of a document. Gives the page behind the walk, and the error that
ended it, if one did. -/
def walk (p : Page) (d : Document) (n : Node) : Page × Option Error :=
  let written := Walk.write ⟨d, p.metadata, p.clamp⟩ n
  ({ p with body := p.body ++ written.text }, written.error)

end Page

def render (d : Document) (settings : Settings) (metadata : Option Metadata) :
    Except Error (List Char) :=
  match d.checkDepth settings.maxNestingDepth with
  | .error e => .error e
  | .ok () =>
    match (Page.begin settings metadata).walk d d.root with
    | (_, some e) => .error e
    | (page, none) => .ok page.text

end Gemtext
