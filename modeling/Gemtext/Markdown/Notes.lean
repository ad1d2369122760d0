import Gemtext.Markdown.Tree

/-! # Notes

The footnotes that the texts of blocks refer to, in the order of their first use. A note is
defined elsewhere under a label, or written where it is used. A label is given its number
when it is first used. A note that is written where it is used has its number before the
notes inside it have theirs.
-/

namespace Gemtext.Markdown

inductive Note where
  /-- A note that is defined under a label. -/
  | labelled (label : List Char)
  /-- A note that is written where it is used. -/
  | inline (content : List Char) (children : List Tree)
  deriving Repr

structure Notes where
  entries : List Note := []
  /-- The numbers of the labels that are used. -/
  numbers : List (List Char × Nat) := []

namespace Notes

def add (note : Note) (s : Notes) : Nat × Notes :=
  (s.entries.length, { s with entries := s.entries ++ [note] })

def fill (number : Nat) (note : Note) (s : Notes) : Notes :=
  { s with entries := s.entries.set number note }

def use (label : List Char) (s : Notes) : Nat × Notes :=
  match s.numbers.lookup label with
  | some number => (number, s)
  | none =>
    let (number, s) := s.add (.labelled label)
    (number, { s with numbers := (label, number) :: s.numbers })

/-- A label that is used again keeps its number. -/
theorem use_use (label : List Char) (s : Notes) :
    (s.use label).2.use label = s.use label := by
  cases h : s.numbers.lookup label with
  | some number => simp [use, h]
  | none => simp [use, h, add]

end Notes

end Gemtext.Markdown
