import Gemtext.Html.Denied
import Gemtext.Html.Markup
import Gemtext.Text.Lines

/-! # Plain text of raw HTML

The text of a fragment of raw HTML: denied elements are removed with their content, line
breaks of the source are blanks, `br` is written as a line break of the caller's choice,
and of all other tags only the text between them stays. Text in scripts, style sheets,
templates and ruby annotations is not shown.

A run of text that is nothing but blanks shrinks to one blank, or to one line feed if it
holds one. In preformatted elements it stays as it is.
-/

namespace Gemtext.Html

open Text

/-- Elements that have no content and no closing tag. -/
def voidNames : List String :=
  ["area", "base", "br", "col", "embed", "hr", "img", "input", "keygen", "link", "menuitem",
   "meta", "param", "source", "track", "wbr", "basefont", "bgsound", "command", "frame",
   "image", "isindex", "nextid", "spacer"]

def unshownNames : List String := ["script", "style", "template", "rt", "rp"]

def preformattedNames : List String := ["pre", "textarea"]

def named (names : List String) (name : List Char) : Bool := names.any (·.toList == name)

/-- Where a reading stands: the open elements, innermost first, the run of text that is
being collected, and the void elements whose closing tags may still come. -/
structure Reading where
  elements : List (List Char)
  run : Option (List Char)
  voids : List (List Char)

def Reading.start : Reading := ⟨[], none, []⟩

/-- One of the blanks that shrink. -/
def isAsciiBlank (c : Char) : Bool :=
  c == ' ' || c == '\n' || c == '\t' || c == '\x0c' || c == '\r'

/-- A run of text as it is shown inside these elements. -/
def shrink (elements : List (List Char)) (t : List Char) : List Char :=
  if elements.any (named preformattedNames) || !t.all isAsciiBlank then t
  else if t.contains '\n' then ['\n'] else [' ']

def Reading.shown (r : Reading) : List Char :=
  match r.run with
  | none => []
  | some t => if r.elements.any (named unshownNames) then [] else shrink r.elements t

/-- The open elements after a closing tag: all up to the one of that name are closed. -/
def closeElement (name : List Char) (elements : List (List Char)) : List (List Char) :=
  if elements.contains name then (elements.dropWhile (· != name)).drop 1 else elements

/-- The text of a line break if the element is one. -/
def breakFor (lineBreak name : List Char) : List Char :=
  if name == "br".toList then lineBreak else []

/-- The text that an event finishes, and the reading behind it. -/
def Reading.step (lineBreak : List Char) (r : Reading) : Event → List Char × Reading
  | .text t => ([], { r with run := some (r.run.getD [] ++ t) })
  | .opening name =>
    (r.shown ++ breakFor lineBreak name,
      if named voidNames name then { r with run := none, voids := name :: r.voids }
      else { r with run := none, elements := name :: r.elements })
  | .selfClosing name => (r.shown ++ breakFor lineBreak name, { r with run := none })
  | .closing name =>
    if r.voids.contains name then ([], { r with voids := r.voids.erase name })
    else (r.shown, { r with run := none, elements := closeElement name r.elements })
  | .hidden => (r.shown, { r with run := none })
  | .literal t => (r.shown ++ shrink r.elements t, { r with run := none })

def Reading.textOf (lineBreak : List Char) (r : Reading) : List Event → List Char
  | [] => r.shown
  | e :: es => (r.step lineBreak e).1 ++ (r.step lineBreak e).2.textOf lineBreak es

def plainText (lineBreak html : List Char) : Except Rejection (List Char) :=
  match removeDenied html with
  | [] => .ok []
  | t =>
    match events (joinLines [' '] t) with
    | .error e => .error e
    | .ok es => .ok (Reading.start.textOf lineBreak es)

end Gemtext.Html
