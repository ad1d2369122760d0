import Gemtext.Markdown.Blocks
import Gemtext.Markdown.Inline

/-! # Markdown texts

A text is read in two steps. First come the blocks, with the definitions of links and notes
among them. Then the texts in the blocks are read into constructs, in their order, with
what all the definitions offer. At last the notes that were referred to follow at the end,
in the order of their first use, each with the blocks of its definition.
-/

namespace Gemtext.Markdown

/-- What the definitions among some blocks offer. -/
def definitionsOf (es : List Event) : Definitions where
  links := es.filterMap fun
    | .linkDefinition label target => some (label, target)
    | _ => none
  notes := es.filterMap fun
    | .noteOpening label => some label
    | _ => none

def readTexts (defs : Definitions) (es : List Event) : Reading (List Event) :=
  es.mapM fun
    | .inline t => do return .tree (.node .inline t (← readInline defs t))
    | e => return e

/-- Blocks that are sorted into those of the text and those of the notes. -/
structure Sorted where
  /-- The events of the text itself, backwards. -/
  main : List Event := []
  /-- The events of each note that is defined. The last of a label come first. -/
  notes : List (List Char × List Event) := []
  /-- The label of the note that was opened last. -/
  label : List Char := []
  /-- The events since then, backwards. -/
  current : List Event := []
  /-- Whether no note was closed since then. -/
  inside : Bool := false

/-- Sorts the next event. The definition of a note ends the one around it. -/
def Sorted.add (s : Sorted) : Event → Sorted
  | .noteOpening label => { s with label, current := [], inside := true }
  | .noteClosing =>
    { s with notes := (s.label, s.current.reverse) :: s.notes, inside := false }
  | e => if s.inside then { s with current := e :: s.current } else { s with main := e :: s.main }

/-- The events of a note, with the definitions that there are. -/
def Note.events (defined : List (List Char × List Event)) : Note → List Event
  | .labelled label => (defined.lookup label).getD []
  | .inline content children =>
    [.opening .paragraph, .tree (.node .inline content children), .closing]

/-- The events of the notes that are referred to. -/
def noteEvents (defined : List (List Char × List Event)) (notes : List Note) : List Event :=
  if notes.isEmpty then []
  else
    .opening .footnoteBlock ::
      (notes.zipIdx.flatMap fun (note, i) =>
        .opening (.footnote (some i)) :: note.events defined ++ [.closing]) ++
      [.closing]

def read? (t : List Char) : Except Error (List Tree) :=
  let events := eventsOfText t
  let (events, reader) := (readTexts (definitionsOf events) events).run {}
  let sorted := events.foldl Sorted.add {}
  treesOfEvents? (sorted.main.reverse ++ noteEvents sorted.notes reader.notes.entries)

end Gemtext.Markdown
