import Gemtext.Error
import Gemtext.Markdown.LinkTarget
import Gemtext.Markdown.Tree

/-! # Events

Blocks come as a row of events: what opens, what closes and what stands between. The
definitions of links and notes stand in the same row where they were met. Events that nest
make trees. They need not nest: a definition of a note is taken out of its place in the
row, and with it whatever opens or closes inside.
-/

namespace Gemtext.Markdown

inductive Event where
  | opening (kind : Kind)
  | closing
  | tree (n : Tree)
  /-- Inline text that is to be read into constructs. -/
  | inline (t : List Char)
  | linkDefinition (label : List Char) (target : Target)
  | noteOpening (label : List Char)
  | noteClosing

/-- The trees of the levels that are open, the innermost first, each backwards. A level
above the outermost has the construct that opened it. -/
structure Nesting where
  trees : List Tree := []
  around : List (Kind × List Tree) := []

/-- Adds an event to what is open. Nothing may be closed that was not opened. -/
def Nesting.add (s : Nesting) : Event → Except Error Nesting
  | .opening kind => .ok ⟨[], (kind, s.trees) :: s.around⟩
  | .closing =>
    match s.around with
    | [] => .error .unbalanced
    | (kind, trees) :: around => .ok ⟨.node kind [] s.trees.reverse :: trees, around⟩
  | .tree n => .ok { s with trees := n :: s.trees }
  | .inline t => .ok { s with trees := .node .inline t [] :: s.trees }
  | .linkDefinition _ _ | .noteOpening _ | .noteClosing => .ok s

/-- The trees that events make. All that is opened has to be closed. -/
def treesOfEvents? (es : List Event) : Except Error (List Tree) :=
  match es.foldlM Nesting.add {} with
  | .error e => .error e
  | .ok s => if s.around.isEmpty then .ok s.trees.reverse else .error .unbalanced

/-- Something is opened and closed again, as a construct of its own. -/
theorem add_closing_opening (s : Nesting) (kind : Kind) :
    [.opening kind, .closing].foldlM Nesting.add s =
      .ok { s with trees := .node kind [] [] :: s.trees } := rfl

/-- Nothing is closed on the outermost level. -/
theorem add_closing_outermost (trees : List Tree) :
    Nesting.add ⟨trees, []⟩ .closing = .error .unbalanced := rfl

end Gemtext.Markdown
