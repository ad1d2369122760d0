import Gemtext.Markdown.Bracket
import Gemtext.Markdown.Emphasis
import Gemtext.Markdown.Notes

/-! # Inline text

The text of a paragraph or a heading is read into constructs from the left. Characters that
begin no construct run together as text. The content of a link is read as a part of the
text around it; that of an image or a note is read as a text of its own. Notes are numbered
as they are met.
-/

namespace Gemtext.Markdown

open Text

/-- What is carried along a text: the notes referred to so far, and how far constructs
reach in this text. -/
structure Reader where
  notes : Notes := {}
  passed : Passed := {}

/-- Reading changes what is carried along. -/
abbrev Reading := StateM Reader

def aside {α : Type} (read : Reading α) : Reading α := fun s =>
  let (a, t) := read { s with passed := {} }
  (a, { t with passed := s.passed })

/-- The construct with brackets at a place, and the number of its characters. -/
def bracketedAt (defs : Definitions) (room : Nat) (p : Place) :
    Reading (Option (Bracketed × Nat)) := fun s =>
  let (found, passed) := bracketed? defs (passOver defs room) p s.passed
  (found, { s with passed })

/-- Changes the notes, which gives the number of one of them. -/
def numbered (change : Notes → Nat × Notes) : Reading Nat := fun s =>
  let (number, notes) := change s.notes
  (number, { s with notes })

def noteReference (number : Nat) : Piece :=
  .tree (.node (.footnoteReference (some number)) [] [])

/-- Numbers a note that is written here, reads its content, and keeps it. -/
def readNote (content : List Char) (read : Reading (List Tree)) : Reading Piece := do
  let number ← numbered (Notes.add (.inline content []))
  let children ← read
  modify fun s => { s with notes := s.notes.fill number (.inline content children) }
  return noteReference number

/-- The text that has run up, if there is any. It is collected backwards. -/
def textPiece (run : List Char) : List Piece :=
  if run.isEmpty then [] else [.text run.reverse]

def leaf (kind : Kind) : Piece := .tree (.node kind [] [])

/-- The pieces at the end of a line: the text that has run up, and a break. Two spaces make
it a hard one, and spaces go. -/
def breakPieces : (run : List Char) → List Piece
  | ' ' :: ' ' :: run => textPiece (run.dropWhile (· == ' ')) ++ [leaf .hardBreak]
  | ' ' :: run => textPiece run ++ [leaf .softBreak]
  | run => textPiece run ++ [leaf .softBreak]

/-- What an atom makes of the text that has run up: the pieces it completes, and the text
that runs on. -/
def Atom.pieces (run : List Char) : Atom → List Piece × List Char
  | .plain t => ([], t.reverse ++ run)
  | .lineEnd => (breakPieces run, [])
  | .hardBreak => (textPiece run ++ [leaf .hardBreak], [])
  | .special t => (textPiece run ++ [.special t], [])
  | .code t => (textPiece run ++ [.tree (.node .code t [])], [])
  | .link href shown =>
    (textPiece run ++ [.tree (.node (.link href []) [] [.node .text shown []])], [])
  | .html t => (textPiece run ++ [.tree (.node .htmlTag t [])], [])

/-- The length of the run of emphasis marks at the head of a text. A single tilde is no
mark. -/
def markRun (t : List Char) : Nat :=
  match t with
  | [] => 0
  | c :: _ =>
    let length := (t.takeWhile (· == c)).length
    if c == '*' || c == '_' || (c == '~' && 1 < length) then length else 0

/-- The number of constructs that may lie inside each other. -/
def nestingRoom : Nat := 20

/-- The pieces from a place on, with room for so many constructs inside each other. `run`
collects text, backwards. The fuel is at least the number of characters inside. -/
def readPieces (defs : Definitions) (joined : Bool) :
    (fuel room : Nat) → (run : List Char) → Place → Reading (List Piece)
  | 0, _, run, _ => return textPiece run
  | fuel + 1, room, run, p =>
    match p.inside with
    | [] => return textPiece run
    | c :: _ =>
      if room = 0 then readPieces defs joined fuel room (c :: run) (p.forward 1)
      else
        match markRun p.inside, atom? p with
        | length + 1, _ => do
          let behind := p.forward (length + 1)
          let marks := marksOfRun c p.last behind.next p.index (length + 1)
          return textPiece run ++ marks ++ (← readPieces defs joined fuel room [] behind)
        | 0, some (atom, n) => do
          let (pieces, run) := atom.pieces run
          return pieces ++ (← readPieces defs joined fuel room run (p.forward n))
        | 0, none => do
          let alone (t : List Char) (joined : Bool) : Reading (List Tree) := do
            return pairMarks joined
              (← aside (readPieces defs joined fuel nestingRoom [] (.start t)))
          match ← bracketedAt defs room p with
          | none => readPieces defs joined fuel room (c :: run) (p.forward 1)
          | some (found, n) =>
            let piece ← match found with
              | .link label target => do
                let inner ← readPieces defs joined fuel (room - 1) [] ((p.forward 1).part label)
                pure (.tree (.node (.link target.href target.title) [] (pairMarks joined inner)))
              | .image label target => do
                let content := (p.inside.drop 2).take label
                pure (.tree (.node (.image target.href) content (← alone content false)))
              | .note label =>
                let content := (p.inside.drop 2).take label
                readNote content (alone content true)
              | .noteReference label => noteReference <$> numbered (Notes.use label)
            return textPiece run ++ piece ::
              (← readPieces defs joined fuel room [] (p.forward n))

def readInline (defs : Definitions) (t : List Char) : Reading (List Tree) := do
  return pairMarks true
    (← aside (readPieces defs true t.length nestingRoom [] (.start t)))

end Gemtext.Markdown
