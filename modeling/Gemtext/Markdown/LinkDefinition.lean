import Gemtext.Markdown.Line
import Gemtext.Url.Parts

/-! # Definitions of links

A label in brackets, a colon, a destination and perhaps a title define a link. Line ends may
stand between them, and inside the label and the title. If something follows a title in its
line, the title is none, and the definition has to end with the destination.

The lines that a definition may take are given with their line feeds. What is left of the
line that is being read and the lines behind it are told apart, as a destination ends with
its line.
-/

namespace Gemtext.Markdown.LinkDefinition

open Text

/-- What is left of a line, and the lines that follow. -/
structure Ahead where
  text : List Char
  lines : List (List Char)

/-- How the reading of a label goes through a line. -/
inductive LabelEnd where
  | closed (label rest : List Char)
  /-- The label goes on in the next line; it is backwards. -/
  | open (label : List Char)
  | failed

/-- Reads a label through a line. `label` collects it, backwards. -/
def labelFrom (label : List Char) : List Char → LabelEnd
  | [] => .open label
  | '[' :: _ => .failed
  | ']' :: rest => .closed label.reverse rest
  | '\\' :: c :: rest => labelFrom (c :: '\\' :: label) rest
  | c :: rest => labelFrom (c :: label) rest

/-- Reads a label, and gives what is behind its bracket. -/
def label? (label : List Char) : List (List Char) → Option (List Char × Ahead)
  | [] => none
  | l :: lines =>
    match labelFrom label l with
    | .closed label rest => some (label, ⟨rest, lines⟩)
    | .open label => label? label lines
    | .failed => none

/-- Drops blanks and the line ends that a line follows. -/
def dropGaps : (lines : List (List Char)) → (text : List Char) → Ahead
  | lines, t =>
    match t.dropWhile isSpace, lines with
    | '\n' :: _, l :: lines => dropGaps lines l
    | '\n' :: _, [] => ⟨[], []⟩
    | t, lines => ⟨t, lines⟩

def titleOver (closing : Char) (title : List Char) : List (List Char) →
    Option (List Char × Ahead)
  | [] => none
  | l :: lines =>
    match titleFrom closing [] l with
    | .closed more rest => some (title ++ more, ⟨rest, lines⟩)
    | .open more => titleOver closing (title ++ more) lines
    | .failed => none

/-- Reads a title. One that ends in its first line needs a gap before it. -/
def title? (afterGap : Bool) (s : Ahead) : Option (List Char × Ahead) :=
  match s.text with
  | [] => none
  | c :: t =>
    match closingMark? c with
    | none => none
    | some closing =>
      match titleFrom closing [] t with
      | .closed title rest => if afterGap then some (title, ⟨rest, s.lines⟩) else none
      | .open title => titleOver closing title s.lines
      | .failed => none

/-- Whether nothing but blanks is left of a line. -/
def endsLine (t : List Char) : Bool :=
  match t.dropWhile isSpace with
  | [] => true
  | c :: _ => c == '\n'

/-- Reads what follows a destination: its title, if it has one, and the lines that are left
over. -/
def ending? (s : Ahead) : Option (List Char × List (List Char)) :=
  let untitled := if endsLine s.text then some ([], s.lines) else none
  let gap := dropGaps s.lines s.text
  let afterGap := gap.text.length != s.text.length || gap.lines.length != s.lines.length
  match title? afterGap gap with
  | none => untitled
  | some (title, behind) =>
    if endsLine behind.text then some (title, behind.lines)
    else if title.isEmpty then none
    else untitled

/-- Reads a definition from the head of some lines: its label, its target, and the number of
lines it takes. -/
def read? (lines : List (List Char)) : Option (List Char × Target × Nat) :=
  match lines with
  | ('[' :: first) :: rest =>
    match label? [] (first :: rest) with
    | some (label, ⟨':' :: t, more⟩) =>
      let gap := dropGaps more t
      match destination? gap.text with
      | none => none
      | some (destination, behind) =>
        let href := Url.written destination
        match ending? ⟨behind, gap.lines⟩ with
        | some (title, left) =>
          if Url.isAllowed href && !(foldLabel label).isEmpty then
            some (foldLabel label, ⟨href, title⟩, lines.length - left.length)
          else none
        | none => none
    | _ => none
  | _ => none

end Gemtext.Markdown.LinkDefinition
