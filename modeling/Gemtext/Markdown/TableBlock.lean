import Gemtext.Markdown.Event
import Gemtext.Markdown.Start

/-! # Tables in text

A table begins with a line of column heads and a line that aligns the columns. Bars
separate the cells; a bar behind a backslash belongs to its cell. The number of columns is
that of the heads. Rows that are shorter are filled up, but not without end.
-/

namespace Gemtext.Markdown.TableBlock

open Text

/-- The cells between the bars of a line. `cell` collects the open one, backwards. -/
def cellsFrom (cell : List Char) : List Char → List (List Char)
  | [] => [cell.reverse]
  | '|' :: rest =>
    match cell with
    | '\\' :: before => cellsFrom ('|' :: before) rest
    | _ => cell.reverse :: cellsFrom [] rest
  | c :: rest => cellsFrom (c :: cell) rest

/-- Drops an empty cell before the first bar and one behind the last. -/
def dropOuter (cells : List (List Char)) : List (List Char) :=
  let cells := if cells.head? = some [] then cells.tail else cells
  if cells.getLast? = some [] then cells.dropLast else cells

def cells (t : List Char) : List (List Char) := dropOuter (cellsFrom [] (trim t))

/-- How the cells of a column are aligned, in the words of style sheets. A column that says
nothing has no style. -/
def columnStyle? (t : List Char) : Option (List Char) :=
  let left := t.head? == some ':'
  let right := 1 < t.length && t.getLast? == some ':'
  let hyphens := (if right then t.dropLast else t).drop (if left then 1 else 0)
  if hyphens.isEmpty || !hyphens.all (· == '-') then none
  else if right then some ("text-align:".toList ++ (if left then "center" else "right").toList)
  else if left then some "text-align:left".toList
  else some []

/-- The styles of the columns that a line aligns. Nothing may stand before the first bar and
behind the last. -/
def columnStyles? (t : List Char) : Option (List (List Char)) :=
  let columns := (splitWhere (· == '|') t).map trim
  let columns := if columns.head? = some [] then columns.tail else columns
  let columns := if columns.getLast? = some [] then columns.dropLast else columns
  columns.mapM columnStyle?

/-- Whether a line may align columns, by its characters. A list item is no such line. -/
def looksAligned (t : List Char) : Bool :=
  match t with
  | c :: d :: _ =>
    t.all (fun c => c == '|' || c == '-' || c == ':' || isSpace c) && !isSpace c &&
      !(c == '-' && isSpace d)
  | _ => false

/-- The heads and the styles of the columns of the table that a line begins. -/
def begins? (a : Around) (l : Line) (rest : List Line) :
    Option (List (List Char) × List (List Char)) :=
  match rest with
  | [] => none
  | m :: _ =>
    if a.isOutside m || a.isCode m || !looksAligned m.content || !l.content.contains '|' ||
        a.isCode l then none
    else
      let heads := cells l.content
      match columnStyles? m.content with
      | some styles =>
        if heads.isEmpty || heads.length != styles.length then none else some (heads, styles)
      | none => none

/-- The events of a row. Cells that are missing are empty. -/
def rowEvents (styles : List (List Char)) (cells : List (List Char)) : List Event :=
  .opening .tableRow ::
    (styles.zipIdx.flatMap fun (style, i) =>
      [.opening (.tableCell style), .inline (trim (cells.getD i [])), .closing]) ++
    [.closing]

/-- How many cells may be filled in. -/
def mostFilled : Int := 65536

/-- The rows of a table, each with as many columns as the styles say. `filled` counts the
cells that were missing so far; cells in excess count against it. -/
def rows (a : Around) (interrupts : Line → List Line → Bool) (columns : Nat) :
    (filled : Int) → List Line → List (List (List Char))
  | _, [] => []
  | filled, l :: rest =>
    if a.isOutside l || interrupts l rest || isBlank l.content || a.isCode l then []
    else
      let row := cells l.content
      let filled := filled + ((columns : Int) - row.length)
      if mostFilled < filled then [] else row :: rows a interrupts columns filled rest

def events (heads styles : List (List Char)) (rows : List (List (List Char))) : List Event :=
  .opening .table :: .opening .tableHead :: rowEvents styles heads ++ [.closing] ++
    (if rows.isEmpty then []
      else .opening .tableBody :: rows.flatMap (rowEvents styles) ++ [.closing]) ++
    [.closing]

end Gemtext.Markdown.TableBlock
