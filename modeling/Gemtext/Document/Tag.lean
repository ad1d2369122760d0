/-! # Tags of document nodes

What an element of a document tree can be, and the three classifications on which the
flattening of a tree to lines depends: blocks, text elements, and the nodes that become
link lines.
-/

namespace Gemtext

inductive Tag where
  | document
  | paragraph
  | blockQuote
  | bulletList
  | enumeratedList
  | definitionList
  | listItem
  | literalBlock
  | table
  | footnote
  | comment
  | lineBlock
  | note
  | tgroup
  | thead
  | tbody
  | row
  | entry
  | transition
  | raw
  | literal
  | emphasis
  | strong
  | reference
  | footnoteReference
  | image
  | subscript
  | superscript
  | division
  | title
  | inline
  | line
  | heading
  | strikethrough
  | hardbreak
  deriving DecidableEq, Repr

namespace Tag

def all : List Tag :=
  [document, paragraph, blockQuote, bulletList, enumeratedList, definitionList, listItem,
   literalBlock, table, footnote, comment, lineBlock, note, tgroup, thead, tbody, row, entry,
   transition, raw, literal, emphasis, strong, reference, footnoteReference, image, subscript,
   superscript, division, title, inline, line, heading, strikethrough, hardbreak]

/-- The name of a tag, as error messages and exchanged trees write it. -/
def name : Tag → String
  | document => "document"
  | paragraph => "paragraph"
  | blockQuote => "block_quote"
  | bulletList => "bullet_list"
  | enumeratedList => "enumerated_list"
  | definitionList => "definition_list"
  | listItem => "list_item"
  | literalBlock => "literal_block"
  | table => "table"
  | footnote => "footnote"
  | comment => "comment"
  | lineBlock => "line_block"
  | note => "note"
  | tgroup => "tgroup"
  | thead => "thead"
  | tbody => "tbody"
  | row => "row"
  | entry => "entry"
  | transition => "transition"
  | raw => "raw"
  | literal => "literal"
  | emphasis => "emphasis"
  | strong => "strong"
  | reference => "reference"
  | footnoteReference => "footnote_reference"
  | image => "image"
  | subscript => "subscript"
  | superscript => "superscript"
  | division => "section"
  | title => "title"
  | inline => "inline"
  | line => "line"
  | heading => "heading"
  | strikethrough => "strikethrough"
  | hardbreak => "hardbreak"

def ofName? (name : String) : Option Tag := all.find? (·.name == name)

/-- Blocks stand on lines of their own: when children are joined and one of them is a
block, a line separator goes between them. -/
def isBlock : Tag → Bool
  | paragraph | blockQuote | bulletList | enumeratedList | definitionList | listItem
  | literalBlock | table | footnote | comment | lineBlock | note => true
  | _ => false

def isTextual : Tag → Bool
  | paragraph | literalBlock | raw | literal | emphasis | strong | reference
  | footnoteReference | subscript | superscript | title | comment | inline | line | heading
  | strikethrough => true
  | _ => false

def isList : Tag → Bool
  | bulletList | enumeratedList | definitionList => true
  | _ => false

def isLink : Tag → Bool
  | reference | image | footnoteReference => true
  | _ => false

/-- The plain-text mark that stands on both sides of a styled span. -/
def delimiter : Tag → List Char
  | literal => ['\x60']
  | emphasis => ['*']
  | strong => ['*', '*']
  | strikethrough => ['~', '~']
  | _ => []

theorem mem_all (t : Tag) : t ∈ all := by cases t <;> decide

/-- A tag is found again by its name. -/
theorem ofName?_name (t : Tag) : ofName? t.name = some t := by cases t <;> decide

end Tag

end Gemtext
