/-! # Text tables

A table is drawn in plain characters: a rule above and below, one line per row, and one
more rule under the header rows. Every column is as wide as its longest cell, so all
lines of a drawing have one length.
-/

namespace Gemtext

inductive Align where
  | left
  | right
  | center
  deriving DecidableEq, Repr

/-- A cell moved to its place among `width` columns. When a centred cell leaves an odd
number of blanks, the extra one goes to the left exactly if `width` is odd too. -/
def Align.place (align : Align) (width : Nat) (cell : List Char) : List Char :=
  let pad := width - cell.length
  let before := match align with
    | .left => 0
    | .right => pad
    | .center => pad / 2 + (if pad % 2 = 1 ∧ width % 2 = 1 then 1 else 0)
  List.replicate before ' ' ++ cell ++ List.replicate (pad - before) ' '

/-- Rows of cells, header rows first. Rows may be short; columns without an entry in
`aligns` stand left. -/
structure Table where
  rows : List (List (List Char))
  headerRows : Int
  aligns : List Align

namespace Table

/-- The number of columns: the length of the longest row. -/
def columns (t : Table) : Nat := (t.rows.map List.length).foldr max 0

/-- The cell of a row in a column, empty where the row is short. -/
def cell (row : List (List Char)) (column : Nat) : List Char := row.getD column []

/-- The width of a column: the length of its longest cell. -/
def width (t : Table) (column : Nat) : Nat :=
  (t.rows.map fun row => (cell row column).length).foldr max 0

def rule (t : Table) : List Char :=
  ['+'] ++ ['+'].intercalate
    ((List.range t.columns).map fun j => List.replicate (t.width j + 2) '-') ++ ['+']

def line (t : Table) (row : List (List Char)) : List Char :=
  "| ".toList ++ " | ".toList.intercalate
    ((List.range t.columns).map fun j =>
      (t.aligns.getD j .left).place (t.width j) (cell row j)) ++ " |".toList

/-- The lines of the rows, with a rule under the header rows when rows follow them. -/
def body (t : Table) : List (List Char) :=
  let lines := t.rows.map t.line
  if 1 ≤ t.headerRows ∧ t.headerRows < t.rows.length then
    lines.take t.headerRows.toNat ++ t.rule :: lines.drop t.headerRows.toNat
  else lines

/-- The lines of the drawing. A table without cells has none. -/
def lines (t : Table) : List (List Char) :=
  if t.columns = 0 then [] else t.rule :: t.body ++ [t.rule]

/-- The drawing, its lines separated by line feeds. -/
def draw (t : Table) : List Char := ['\n'].intercalate t.lines

end Table

end Gemtext
