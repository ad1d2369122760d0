import Gemtext.Markdown.RawHtml
import Gemtext.Text.Case

/-! # Blocks of raw HTML

A line that begins with a piece of HTML may begin a block of it. What the piece is decides
where the block ends: with a line that holds a mark, or with an empty line. The content of
an element of its own line is no paragraph, so that a line with nothing but a tag begins
a block too, though not in the middle of a paragraph.
-/

namespace Gemtext.Markdown.HtmlBlock

open Text

/-- The elements whose content is taken as it is. -/
def rawNames : List String := ["script", "pre", "style", "textarea"]

def blockNames : List String :=
  ["address", "article", "aside", "base", "basefont", "blockquote", "body", "caption", "center",
   "col", "colgroup", "dd", "details", "dialog", "dir", "div", "dl", "dt", "fieldset",
   "figcaption", "figure", "footer", "form", "frame", "frameset", "h1", "h2", "h3", "h4", "h5",
   "h6", "head", "header", "hr", "html", "iframe", "legend", "li", "link", "main", "menu",
   "menuitem", "nav", "noframes", "ol", "optgroup", "option", "p", "param", "search", "section",
   "summary", "table", "tbody", "td", "tfoot", "th", "thead", "title", "tr", "track", "ul"]

inductive Ending where
  /-- With a line that holds the closing tag of an element that is taken as it is. -/
  | rawTag
  /-- With a line that holds this text. -/
  | mark (t : List Char)
  /-- Before an empty line. -/
  | emptyLine
  deriving DecidableEq, Repr

/-- The rest behind one of several names at the head of a text, in any case, if the rest is
accepted. -/
def dropName? (names : List String) (accepts : List Char → Bool) (t : List Char) :
    Option (List Char) :=
  names.findSome? fun name => (dropWord? name.toList t).filter accepts

/-- The rest behind a closing tag of an element that is taken as it is. -/
def rawClosing? : List Char → Option (List Char)
  | '<' :: '/' :: t => dropName? rawNames (·.head? == some '>') t
  | _ => none

def Ending.isReached (t : List Char) : Ending → Bool
  | .rawTag => (splitAt? rawClosing? t).isSome
  | .mark m => (dropThrough? m t).isSome
  | .emptyLine => t.isEmpty

/-- Whether the name of an element ends where this follows. -/
def endsName (t : List Char) : Bool := t.head?.all fun c => isWhite c || c == '>'

/-- Whether the name of an element that is a block ends where this follows. -/
def endsBlockName (t : List Char) : Bool := endsName t || (dropPrefix? ['/', '>'] t).isSome

/-- Where the block ends that a line begins, and whether it may stand in the middle of a
paragraph. -/
def begins? (t : List Char) : Option (Ending × Bool) :=
  match t with
  | '<' :: inner =>
    let starts (lead : String) : Bool := (dropPrefix? lead.toList inner).isSome
    let name := if inner.head? = some '/' then inner.tail else inner
    if (dropName? rawNames endsName inner).isSome then some (.rawTag, true)
    else if starts "!--" then some (.mark "-->".toList, true)
    else if starts "?" then some (.mark "?>".toList, true)
    else if starts "!" && inner.tail.head?.any Char.isUpper then some (.mark ['>'], true)
    else if starts "![CDATA[" then some (.mark "]]>".toList, true)
    else if (dropName? blockNames endsBlockName name).isSome then some (.emptyLine, true)
    else if (RawHtml.tag? isBlank t).isSome then some (.emptyLine, false)
    else none
  | _ => none

end Gemtext.Markdown.HtmlBlock
