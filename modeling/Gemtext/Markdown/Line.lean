import Gemtext.Markdown.LinkTarget
import Gemtext.Text.Lines
import Gemtext.Text.Split

/-! # Lines of blocks

A text is read into blocks line by line. Blocks that hold others take their markers from
the front of a line, and pass on the rest. Indentation is counted in columns, where a tab
leads to the next multiple of four; the columns of what was taken still count for tabs.
-/

namespace Gemtext.Markdown

open Text

/-- A line, without the markers of the blocks around it. -/
structure Line where
  /-- What is left of the line. -/
  text : List Char
  /-- How many characters of the text stand before the content. -/
  shift : Nat
  /-- The column of the content. It is negative in a line that goes on with a paragraph
  whatever it holds. -/
  indent : Int
  /-- The column of the text, for tabs. -/
  base : Nat := 0
  /-- Whether a line feed ends the line. -/
  ended : Bool
  deriving DecidableEq, Repr

/-- The width of the blanks at the head of a text that stands in a column. -/
def blankWidth (column : Nat) : List Char → Nat
  | ' ' :: t => 1 + blankWidth (column + 1) t
  | '\t' :: t => 4 - column % 4 + blankWidth (column + (4 - column % 4)) t
  | _ => 0

def blankCount (t : List Char) : Nat := (t.takeWhile isSpace).length

namespace Line

def ofText (ended : Bool) (t : List Char) : Line :=
  { text := t, shift := blankCount t, indent := blankWidth 0 t, ended }

def content (l : Line) : List Char := l.text.drop l.shift

def isEmpty (l : Line) : Bool := l.content.isEmpty

def contentEnded (l : Line) : List Char := l.content ++ if l.ended then ['\n'] else []

/-- Takes a number of columns from the front of a text: blanks, and any characters before
the content. A tab that is cut in two leaves spaces. -/
def cutFrom (base columns : Nat) : (shift taken : Nat) → List Char → List Char
  | _, taken, [] => List.replicate (taken - columns) ' '
  | shift, taken, c :: t =>
    if columns ≤ taken then List.replicate (taken - columns) ' ' ++ c :: t
    else if c == '\t' then cutFrom base columns (shift - 1) (taken + (4 - (taken + base) % 4)) t
    else if c == ' ' || 0 < shift then cutFrom base columns (shift - 1) (taken + 1) t
    else c :: t

/-- What is left of a line when a number of columns is taken from it. -/
def cut (columns : Nat) (l : Line) : List Char := cutFrom l.base columns l.shift 0 l.text

end Line

/-- The text of some lines without so many columns. The line feed of the last line is kept
or not. -/
def textOf (columns : Nat) (keepLast : Bool) : List Line → List Char
  | [] => []
  | [l] => l.cut columns ++ if keepLast && l.ended then ['\n'] else []
  | l :: ls => l.cut columns ++ '\n' :: textOf columns keepLast ls

/-- The lines that end with a line feed, and one more if something other than blanks
follows the last of them. -/
def linesOf : List (List Char) → List Line
  | [] => []
  | [t] => if t.all isSpace then [] else [Line.ofText false t]
  | t :: ts => Line.ofText true t :: linesOf ts

/-- The lines of a text. All line ends are line feeds, and NUL is the replacement
character. -/
def readLines (t : List Char) : List Line :=
  linesOf (splitWhere (· == '\n') ((unixBreaks t).map fun c => if c == '\x00' then '\uFFFD' else c))

theorem cutFrom_zero (base shift : Nat) (t : List Char) : Line.cutFrom base 0 shift 0 t = t := by
  cases t <;> simp [Line.cutFrom]

/-- Where no columns are taken, the lines keep their texts. -/
@[simp] theorem Line.cut_zero (l : Line) : l.cut 0 = l.text := cutFrom_zero _ _ _

end Gemtext.Markdown
