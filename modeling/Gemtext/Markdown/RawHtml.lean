import Gemtext.Text.Blank
import Gemtext.Text.Search

/-! # Pieces of raw HTML

In inline text, raw HTML is an opening or closing tag, a comment, a processing instruction,
a declaration or a marked section. Each is read from the head of a text up to the angle
bracket that ends it.

A value without quotation marks may hold blanks past ASCII, and it may as well end before
one of them. A tag is therefore read by trying the ends of such a value in turn, the
farthest first. The caller says which rests it accepts behind a tag.
-/

namespace Gemtext.Markdown.RawHtml

open Text

/-- A character of the name of an element behind the first. -/
def isNameChar (c : Char) : Bool := c.isAlphanum || c == '-'

/-- A character that begins the name of an attribute. -/
def beginsAttribute (c : Char) : Bool := c.isAlpha || c == '_' || c == ':'

/-- A character of the name of an attribute behind the first. -/
def isAttributeChar (c : Char) : Bool :=
  c.isAlphanum || c == ':' || c == '.' || c == '_' || c == '-'

/-- A character of a value without quotation marks. -/
def isValueChar (c : Char) : Bool := 0x20 < c.toNat && !"\"'=<>".toList.contains c && c != '\x60'

/-- The texts behind each character of `run` that a value without quotation marks may end
with, the last one first. -/
def valueEnds (run rest : List Char) : List (List Char) :=
  match run with
  | [] => []
  | c :: run => valueEnds run rest ++ if isValueChar c then [run ++ rest] else []

/-- The texts that may follow the value of an attribute, behind the equals sign. -/
def behindValue (t : List Char) : List (List Char) :=
  let lead := t.takeWhile isWhite
  let body := t.dropWhile isWhite
  let quoted :=
    match body with
    | '\x22' :: body => (dropThrough? ['\x22'] body).toList
    | '\x27' :: body => (dropThrough? ['\x27'] body).toList
    | _ => []
  quoted ++ valueEnds (lead ++ body.takeWhile isValueChar) (body.dropWhile isValueChar)

/-- The end of a tag: blanks, perhaps a slash, and the bracket. -/
def behindBracket? (accepts : List Char → Bool) (t : List Char) : Option (List Char) :=
  match t.dropWhile isWhite with
  | '>' :: rest => if accepts rest then some rest else none
  | '/' :: '>' :: rest => if accepts rest then some rest else none
  | _ => none

/-- The rest behind the attributes and the bracket of an opening tag. The fuel is the
length of the text. -/
def behindAttributes? (accepts : List Char → Bool) : (fuel : Nat) → List Char →
    Option (List Char)
  | 0, t => behindBracket? accepts t
  | fuel + 1, t =>
    match t.takeWhile isWhite, t.dropWhile isWhite with
    | _ :: _, c :: name =>
      if beginsAttribute c then
        let behindName := name.dropWhile isAttributeChar
        match behindName.dropWhile isWhite with
        | '=' :: value => (behindValue value).findSome? (behindAttributes? accepts fuel)
        | _ => behindAttributes? accepts fuel behindName
      else behindBracket? accepts t
    | _, _ => behindBracket? accepts t

def tag? (accepts : List Char → Bool) (t : List Char) : Option (List Char) :=
  match t with
  | '<' :: '/' :: c :: t =>
    if c.isAlpha then
      match (t.dropWhile isNameChar).dropWhile isWhite with
      | '>' :: rest => if accepts rest then some rest else none
      | _ => none
    else none
  | '<' :: c :: t =>
    if c.isAlpha then behindAttributes? accepts t.length (t.dropWhile isNameChar) else none
  | _ => none

/-- The rest behind the end of a comment. Two hyphens end it, with a bracket behind them;
otherwise they take one more character with them. -/
def behindComment? : List Char → Option (List Char)
  | [] => none
  | '-' :: '-' :: '>' :: rest => some rest
  | '-' :: '-' :: _ :: rest => behindComment? rest
  | '-' :: _ :: rest => behindComment? rest
  | _ :: rest => behindComment? rest

/-- The rest behind a piece of raw HTML at the head of a text. -/
def piece? (t : List Char) : Option (List Char) :=
  match t with
  | '<' :: '!' :: '-' :: '-' :: '>' :: rest => some rest
  | '<' :: '!' :: '-' :: '-' :: '-' :: '>' :: rest => some rest
  | '<' :: '!' :: '-' :: '-' :: rest => behindComment? rest
  | '<' :: '?' :: rest => dropThrough? ['?', '>'] rest
  | '<' :: '!' :: c :: rest =>
    if c.isAlpha then dropThrough? ['>'] rest
    else (dropPrefix? "[CDATA[".toList (c :: rest)).bind (dropThrough? [']', ']', '>'])
  | _ => tag? (fun _ => true) t

end Gemtext.Markdown.RawHtml
