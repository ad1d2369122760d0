import Gemtext.Markdown.HtmlBlock
import Gemtext.Markdown.TableBlock

/-! # Lines that interrupt

A paragraph goes on over the lines that follow it, whatever their indentation, until a line
is empty or begins a block that may interrupt it. Link definitions, quotes, tables and lists
are interrupted in the same way, each by blocks of its own choice.

A list interrupts a paragraph only with an item that is not empty, and an ordered list only
with the number one. A line that stands outside of the content around the paragraph is free
of this rule.
-/

namespace Gemtext.Markdown

open Text

inductive Interrupted where
  | paragraph
  | linkDefinition
  /-- A quote or the rows of a table. -/
  | quote
  | list
  deriving DecidableEq, Repr

/-- Whether an item may stand here. A line far to the right of the innermost list, and yet
outside of its content, goes on with a paragraph. -/
def Around.admitsItem (a : Around) (l : Line) : Bool :=
  match a.list with
  | some column => !((column : Int) + 4 ≤ l.indent && a.isOutside l)
  | none => true

def Marker.interruptsParagraph (m : Marker) (t : List Char) : Bool :=
  (m.number.getD 1 == 1) && !(t.drop m.width).all isSpace

/-- Whether a line begins a list that interrupts. -/
def interruptsAsList (a : Around) (what : Interrupted) (l : Line) : Bool :=
  match marker? l.content with
  | none => false
  | some m =>
    a.admitsItem l &&
      (what != .paragraph || a.isOutside l || m.interruptsParagraph l.content)

/-- Whether a line, with those that follow it, interrupts. -/
def interrupts (a : Around) (what : Interrupted) (l : Line) (rest : List Line) : Bool :=
  let t := l.content
  !a.isCode l &&
    ((fence? t).isSome || t.head? == some '>' || isRule t ||
      (what != .list &&
        (interruptsAsList a what l || (HtmlBlock.begins? t).any (·.2) ||
          (headingLevel? t).isSome || (a.inDescription && (description? t).isSome))) ||
      ((what == .paragraph || what == .linkDefinition) &&
        ((TableBlock.begins? a l rest).isSome || (noteDefinition? t).isSome)))

/-- The lines that go on with a paragraph or a link definition. -/
def following (a : Around) (what : Interrupted) : List Line → List Line
  | [] => []
  | l :: rest =>
    if l.isEmpty then []
    else if a.isCode l || l.indent < 0 || !interrupts a what l rest then
      l :: following a what rest
    else []

/-- What goes on with a paragraph are the lines right behind it. -/
theorem following_isPrefix (a : Around) (what : Interrupted) (ls : List Line) :
    following a what ls <+: ls := by
  induction ls with
  | nil => exact List.prefix_refl _
  | cons l rest ih =>
    rw [following]
    split
    · exact List.nil_prefix
    · split
      · exact (List.prefix_cons_inj l).2 ih
      · exact List.nil_prefix

end Gemtext.Markdown
