import Mathlib.Algebra.BigOperators.Group.List.Basic
import Mathlib.Algebra.GroupWithZero.Nat
import Mathlib.Data.List.MinMax
import Mathlib.Order.Nat
import Gemtext.Proofs.Containers
import Gemtext.Proofs.Preformatted

/-! # The lines of a table

The lines of a drawing are a rule, the rows with perhaps a rule under the header rows, and a rule.
They all have one length, and in the line of each row the cell of a column stands in the same place,
with blanks around it, so that the cells can be read from the drawing.
-/

namespace Gemtext

open Text

/-! ## Cells in their fields -/

/-- Takes blanks away from both ends of a text. -/
def unpadded (t : List Char) : List Char := dropEndWhile (· == ' ') (t.dropWhile (· == ' '))

theorem dropWhile_blanks (k : Nat) (t : List Char) :
    (List.replicate k ' ' ++ t).dropWhile (· == ' ') = t.dropWhile (· == ' ') :=
  List.dropWhile_append_of_pos fun _ member => by simp [List.eq_of_mem_replicate member]

theorem dropEndWhile_blanks (t : List Char) (k : Nat) :
    dropEndWhile (· == ' ') (t ++ List.replicate k ' ') = dropEndWhile (· == ' ') t := by
  rw [dropEndWhile, List.reverse_append, List.reverse_replicate, dropWhile_blanks]
  rfl

/-- Blanks around a text are all taken away. -/
theorem unpadded_blanks (before behind : Nat) (t : List Char) :
    unpadded (List.replicate before ' ' ++ t ++ List.replicate behind ' ') = unpadded t := by
  rw [unpadded, unpadded, List.append_assoc, dropWhile_blanks, List.dropWhile_append]
  split
  · next empty =>
      have blanks : (List.replicate behind ' ').dropWhile (· == ' ') = [] := by
        simp
      rw [blanks, List.isEmpty_iff.mp empty]
  · exact dropEndWhile_blanks _ behind

/-- Whether a cell with so many blanks before and behind it is aligned: a centred cell has as many
    on both sides, or one more on one of them. -/
def Align.Pads (before behind : Nat) : Align → Prop
  | left => before = 0
  | right => behind = 0
  | center => before = behind ∨ before = behind + 1 ∨ behind = before + 1

theorem Align.place_eq (align : Align) {width : Nat} {cell : List Char}
    (fits : cell.length ≤ width) :
    ∃ before behind, align.place width cell =
        List.replicate before ' ' ++ cell ++ List.replicate behind ' ' ∧
      before + cell.length + behind = width ∧ align.Pads before behind := by
  cases align with
  | left =>
      refine ⟨0, width - cell.length, rfl, ?_, rfl⟩
      omega
  | right =>
      refine ⟨width - cell.length, 0, ?_, ?_, rfl⟩
      · simp [place]
      · omega
  | center =>
      refine ⟨_, _, rfl, ?_, ?_⟩
      · dsimp only
        split <;> omega
      · dsimp only [Pads]
        split <;> omega

theorem Align.length_place (align : Align) {width : Nat} {cell : List Char}
    (fits : cell.length ≤ width) : (align.place width cell).length = width := by
  obtain ⟨before, behind, placed, sum, _⟩ := align.place_eq fits
  rw [placed, List.length_append, List.length_append, List.length_replicate, List.length_replicate,
    sum]

/-! ## Joined parts -/

/-- A part of joined texts stands behind the parts before it, each with its separator. -/
theorem intercalate_split (sep : List Char) {parts : List (List Char)} {j : Nat}
    {part : List Char} (located : parts[j]? = some part) :
    ∃ front back, sep.intercalate parts = front ++ part ++ back ∧
      front.length = ((parts.take j).map fun p => p.length + sep.length).sum := by
  induction parts generalizing j with
  | nil => cases located
  | cons first rest ih =>
      cases j with
      | zero =>
          obtain rfl : first = part := by simpa using located
          cases rest with
          | nil => exact ⟨[], [], by simp, rfl⟩
          | cons next rest =>
              refine ⟨[], sep ++ sep.intercalate (next :: rest), ?_, rfl⟩
              simp [List.intercalate_cons_cons]
      | succ j =>
          obtain ⟨front, back, split, length⟩ := ih (by simpa using located)
          cases rest with
          | nil => cases located
          | cons next rest =>
              refine ⟨first ++ sep ++ front, back, ?_, ?_⟩
              · rw [List.intercalate_cons_cons, split]
                simp
              · simp only [List.length_append, length, List.take_succ_cons, List.map_cons,
                  List.sum_cons]

namespace Table

variable (t : Table)

/-! ## Columns -/

theorem length_le_columns {t : Table} {row : List (List Char)} (member : row ∈ t.rows) :
    row.length ≤ t.columns :=
  List.le_max_of_le (List.mem_map.mpr ⟨row, member, rfl⟩) (Nat.le_refl _)

/-- A maximum is one of the numbers it is taken of. -/
theorem foldr_max_mem {ks : List Nat} (some : ks ≠ []) : ks.foldr max 0 ∈ ks :=
  List.maximum_mem (List.foldr_max_of_ne_nil some).symm

/-- A table has no columns if all its rows are empty. -/
theorem columns_eq_zero : t.columns = 0 ↔ ∀ row ∈ t.rows, row = [] := by
  constructor
  · intro none row member
    exact List.length_eq_zero_iff.mp (Nat.le_zero.mp (none ▸ length_le_columns member))
  · intro empty
    by_cases rows : t.rows = []
    · simp [columns, rows]
    · have lengths : t.rows.map List.length ≠ [] := by simpa using rows
      obtain ⟨row, member, length⟩ := List.mem_map.mp (foldr_max_mem lengths)
      rw [columns, ← length, empty row member]
      rfl

theorem length_le_width {t : Table} {row : List (List Char)} (member : row ∈ t.rows) (j : Nat) :
    (cell row j).length ≤ t.width j :=
  List.le_max_of_le (List.mem_map.mpr ⟨row, member, rfl⟩) (Nat.le_refl _)

/-- The width of a column is the length of one of its cells. -/
theorem exists_width {t : Table} (some : t.rows ≠ []) (j : Nat) :
    ∃ row ∈ t.rows, (cell row j).length = t.width j :=
  List.mem_map.mp (foldr_max_mem (by simpa using some))

/-! ## Fields -/

/-- Where the field of a column begins in the line of a row. -/
def offset (j : Nat) : Nat := 2 + ((List.range j).map fun i => t.width i + 3).sum

/-- The field of a column in a line. -/
def field (line : List Char) (j : Nat) : List Char := (line.drop (t.offset j)).take (t.width j)

/-- The cells of a row, each in its place. -/
def placed (row : List (List Char)) : List (List Char) :=
  (List.range t.columns).map fun j => (t.aligns.getD j .left).place (t.width j) (cell row j)

theorem line_eq (row : List (List Char)) :
    t.line row = "| ".toList ++ " | ".toList.intercalate (t.placed row) ++ " |".toList := rfl

theorem length_placed {t : Table} {row : List (List Char)} (member : row ∈ t.rows) :
    (t.placed row).map List.length = (List.range t.columns).map t.width := by
  rw [placed, List.map_map]
  exact List.map_congr_left fun j _ => Align.length_place _ (length_le_width member j)

theorem field_line {t : Table} {row : List (List Char)} (member : row ∈ t.rows) {j : Nat}
    (inside : j < t.columns) :
    t.field (t.line row) j = (t.aligns.getD j .left).place (t.width j) (cell row j) := by
  have located : (t.placed row)[j]? =
      some ((t.aligns.getD j .left).place (t.width j) (cell row j)) := by
    rw [placed, List.getElem?_map, List.getElem?_range inside]
    rfl
  obtain ⟨front, back, split, length⟩ := intercalate_split " | ".toList located
  have before : ("| ".toList ++ front).length = t.offset j := by
    have widths : ((t.placed row).take j).map (fun p => p.length + " | ".toList.length) =
        (List.range j).map fun i => t.width i + 3 := by
      have each := congrArg (fun ks => (ks.take j).map (· + 3)) (length_placed member)
      rw [← List.map_take, ← List.map_take, List.take_range, List.map_map, List.map_map,
        Nat.min_eq_left (Nat.le_of_lt inside)] at each
      exact each
    rw [List.length_append, length, widths]
    rfl
  have own := Align.length_place (t.aligns.getD j .left) (length_le_width member j)
  have line : t.line row = ("| ".toList ++ front) ++
      ((t.aligns.getD j .left).place (t.width j) (cell row j) ++ (back ++ " |".toList)) := by
    rw [line_eq, split]
    simp only [List.append_assoc]
  rw [field, line, List.drop_left' before, List.take_left' own]

/-! ## Lines -/

/-- The length of the lines. -/
def lineLength : Nat := ((List.range t.columns).map t.width).sum + 3 * t.columns + 1

theorem length_line {t : Table} {row : List (List Char)} (member : row ∈ t.rows)
    (some : t.columns ≠ 0) : (t.line row).length = t.lineLength := by
  have count : (t.placed row).length = t.columns := by simp [placed]
  have ends : "| ".toList.length = 2 ∧ " | ".toList.length = 3 ∧ " |".toList.length = 2 := by decide
  rw [line_eq, List.length_append, List.length_append, length_intercalate, List.length_flatten,
    length_placed member, count, ends.1, ends.2.1, ends.2.2, lineLength]
  omega

theorem length_rule (some : t.columns ≠ 0) : t.rule.length = t.lineLength := by
  have each : (((List.range t.columns).map fun j => List.replicate (t.width j + 2) '-').map
      List.length).sum = ((List.range t.columns).map t.width).sum + 2 * t.columns := by
    have widths : ((List.range t.columns).map fun j => List.replicate (t.width j + 2) '-').map
        List.length = (List.range t.columns).map fun j => t.width j + 2 := by
      simp [Function.comp_def]
    rw [widths, List.sum_map_add, List.map_const', List.sum_replicate_nat, List.length_range,
      Nat.mul_comm]
  rw [rule, List.length_append, List.length_append, length_intercalate, List.length_flatten, each,
    List.length_map, List.length_range, lineLength]
  simp only [List.length_cons, List.length_nil]
  omega

/-- The line of a row is no rule. -/
theorem line_ne_rule (row : List (List Char)) : t.line row ≠ t.rule := by
  intro same
  have first := congrArg List.head? same
  simp [line, rule] at first

/-- A rule stands under the header rows if there are any and rows follow them. -/
def Ruled : Prop := 1 ≤ t.headerRows ∧ t.headerRows < t.rows.length

instance : Decidable t.Ruled := inferInstanceAs (Decidable (_ ∧ _))

/-- The index of the line of a row: the first rule is above it, and perhaps one more. -/
def lineIndex (i : Nat) : Nat := if t.Ruled ∧ t.headerRows ≤ i then i + 2 else i + 1

theorem body_of_not_ruled (plain : ¬t.Ruled) : t.body = t.rows.map t.line := if_neg plain

/-- Between the rules stand the lines of the header rows, a rule, and those of the other rows. -/
theorem body_of_ruled (ruled : t.Ruled) : ∃ header : Nat, t.headerRows = header ∧
    header < t.rows.length ∧ t.body =
      (t.rows.take header).map t.line ++ t.rule :: (t.rows.drop header).map t.line := by
  obtain ⟨positive, fewer⟩ := ruled
  refine ⟨t.headerRows.toNat, by omega, by omega, ?_⟩
  rw [body, if_pos ⟨positive, fewer⟩, List.map_take, List.map_drop]

theorem length_body : t.body.length = t.rows.length + if t.Ruled then 1 else 0 := by
  by_cases ruled : t.Ruled
  · obtain ⟨header, _, fewer, split⟩ := t.body_of_ruled ruled
    rw [split, if_pos ruled]
    simp only [List.length_append, List.length_map, List.length_cons, List.length_take,
      List.length_drop]
    omega
  · rw [t.body_of_not_ruled ruled, if_neg ruled, List.length_map, Nat.add_zero]

theorem body_row {i : Nat} {row : List (List Char)} (located : t.rows[i]? = some row) :
    t.body[t.lineIndex i - 1]? = some (t.line row) := by
  unfold lineIndex
  by_cases ruled : t.Ruled
  · obtain ⟨header, same, fewer, split⟩ := t.body_of_ruled ruled
    have above : ((t.rows.take header).map t.line).length = header := by
      rw [List.length_map, List.length_take]
      omega
    rw [split, same]
    by_cases behind : header ≤ i
    · have index : i + 2 - 1 = header + (i - header + 1) := by omega
      rw [if_pos ⟨ruled, by omega⟩, index, List.getElem?_append_right (by omega), above,
        Nat.add_sub_cancel_left, List.getElem?_cons_succ, List.getElem?_map, List.getElem?_drop,
        Nat.add_sub_cancel' behind, located]
      rfl
    · rw [if_neg (by omega), Nat.add_sub_cancel, List.getElem?_append_left (by omega),
        List.getElem?_map, List.getElem?_take, if_pos (by omega), located]
      rfl
  · rw [if_neg (fun both => ruled both.1), t.body_of_not_ruled ruled, Nat.add_sub_cancel,
      List.getElem?_map, located]
    rfl

/-- The only rule between the first and the last one stands under the header rows. -/
theorem body_rule {k : Nat} : t.body[k]? = some t.rule ↔ t.Ruled ∧ (k : Int) = t.headerRows := by
  have noRow (rows : List (List (List Char))) (k : Nat) :
      (rows.map t.line)[k]? ≠ some t.rule := by
    rw [List.getElem?_map]
    intro found
    obtain ⟨row, _, same⟩ := Option.map_eq_some_iff.mp found
    exact t.line_ne_rule row same
  by_cases ruled : t.Ruled
  · obtain ⟨header, same, fewer, split⟩ := t.body_of_ruled ruled
    have above : ((t.rows.take header).map t.line).length = header := by
      rw [List.length_map, List.length_take]
      omega
    rw [split, same]
    rcases Nat.lt_trichotomy k header with before | rfl | behind
    · rw [List.getElem?_append_left (by omega)]
      exact iff_of_false (noRow _ k) fun both => by omega
    · rw [List.getElem?_append_right (by omega), above, Nat.sub_self]
      exact iff_of_true rfl ⟨ruled, rfl⟩
    · obtain ⟨past, index⟩ : ∃ past, k - header = past + 1 := ⟨k - header - 1, by omega⟩
      rw [List.getElem?_append_right (by omega), above, index, List.getElem?_cons_succ]
      exact iff_of_false (noRow _ past) fun both => by omega
  · rw [t.body_of_not_ruled ruled]
    exact iff_of_false (noRow t.rows k) fun both => ruled both.1

/-- A drawing: a rule, the body, and a rule. -/
theorem lines_eq (some : t.columns ≠ 0) : t.lines = t.rule :: (t.body ++ [t.rule]) := by
  rw [lines, if_neg some, List.cons_append]

theorem lines_rule (some : t.columns ≠ 0) {k : Nat} :
    t.lines[k]? = .some t.rule ↔
      k = 0 ∨ k + 1 = t.lines.length ∨ t.Ruled ∧ (k : Int) = t.headerRows + 1 := by
  rw [t.lines_eq some]
  cases k with
  | zero => exact iff_of_true rfl (.inl rfl)
  | succ k =>
      have under : ((k + 1 : Nat) : Int) = t.headerRows + 1 ↔ (k : Int) = t.headerRows := by omega
      rw [List.getElem?_cons_succ, under]
      simp only [List.length_cons, List.length_append, List.length_nil]
      rcases Nat.lt_trichotomy k t.body.length with inside | rfl | beyond
      · rw [List.getElem?_append_left inside, t.body_rule]
        refine ⟨fun ruled => .inr (.inr ruled), ?_⟩
        rintro (none | last | ruled)
        · omega
        · omega
        · exact ruled
      · rw [List.getElem?_append_right (Nat.le_refl _), Nat.sub_self]
        exact iff_of_true rfl (.inr (.inl rfl))
      · have past : (t.body ++ [t.rule]).length ≤ k := by
          rw [List.length_append, List.length_singleton]
          exact beyond
        rw [List.getElem?_eq_none past]
        have short := t.length_body
        refine iff_of_false nofun ?_
        rintro (none | last | ⟨ruled, under⟩)
        · omega
        · omega
        · rw [if_pos ruled] at short
          have fewer := ruled.2
          omega

/-- The drawing of a table whose cells are single lines is empty if all its rows are. Otherwise it
    has a line for each row, a rule above them and one below, and one under the header rows if rows
    follow them. All lines have one length: the columns are as wide as their longest cells, and
    three characters go with each column, and one more. In the line of each row the field of a
    column, in the same place in all of them, is its cell with blanks on the sides where its column
    has them. So a field without the blanks around it is the cell without those. -/
theorem table_drawn {t : Table} (cells : t.CellsOneLine) :
    ((∀ row ∈ t.rows, row = []) → t.draw = []) ∧
    ((∃ row ∈ t.rows, row ≠ []) →
      let drawn := textLines t.draw
      drawn.length = t.rows.length + 2 + (if t.Ruled then 1 else 0) ∧
      (∀ l ∈ drawn, l.length = ((List.range t.columns).map t.width).sum + 3 * t.columns + 1) ∧
      (∀ j, (∀ row ∈ t.rows, (cell row j).length ≤ t.width j) ∧
        ∃ row ∈ t.rows, (cell row j).length = t.width j) ∧
      (∀ k, drawn[k]? = some t.rule ↔
        k = 0 ∨ k + 1 = drawn.length ∨ t.Ruled ∧ (k : Int) = t.headerRows + 1) ∧
      ∀ i row, t.rows[i]? = some row → row.length ≤ t.columns ∧
        ∃ l, drawn[t.lineIndex i]? = some l ∧ ∀ j < t.columns,
          ∃ before behind,
            t.field l j =
              List.replicate before ' ' ++ cell row j ++ List.replicate behind ' ' ∧
            before + (cell row j).length + behind = t.width j ∧
            (t.aligns.getD j .left).Pads before behind ∧
            unpadded (t.field l j) = unpadded (cell row j)) := by
  constructor
  · intro empty
    rw [draw, lines, if_pos (t.columns_eq_zero.mpr empty)]
    rfl
  · rintro ⟨first, held, holds⟩
    have some : t.columns ≠ 0 := fun none => holds (t.columns_eq_zero.mp none first held)
    have read : textLines t.draw = t.lines :=
      textLines_intercalate fun l member => (lines_plain cells member).1
    rw [read]
    refine ⟨?_, fun l member => ?_, fun j => ?_, fun k => t.lines_rule some, ?_⟩
    · rw [t.lines_eq some, List.length_cons, List.length_append, length_body]
      simp only [List.length_cons, List.length_nil]
      omega
    · rcases mem_lines member with rfl | ⟨row, inside, rfl⟩
      · exact t.length_rule some
      · exact length_line inside some
    · exact ⟨fun row member => length_le_width member j,
        exists_width (List.ne_nil_of_mem held) j⟩
    · intro i row located
      have member : row ∈ t.rows := List.mem_of_getElem? located
      refine ⟨length_le_columns member, t.line row, ?_, fun j inside => ?_⟩
      · have index : t.lineIndex i = (t.lineIndex i - 1) + 1 := by
          unfold lineIndex
          split <;> omega
        have inBody := t.body_row located
        obtain ⟨bound, _⟩ := List.getElem?_eq_some_iff.mp inBody
        rw [t.lines_eq some, index, List.getElem?_cons_succ, List.getElem?_append_left bound,
          inBody]
      · obtain ⟨before, behind, placed, sum, pads⟩ :=
          Align.place_eq (t.aligns.getD j .left) (length_le_width member j)
        have field := (field_line member inside).trans placed
        exact ⟨before, behind, field, sum, pads, by rw [field, unpadded_blanks]⟩

/-- Two header rows, one of them short, and a row with a centred cell. -/
theorem table_drawn_headers :
    let t : Table :=
      ⟨[["ab".toList, "c".toList], ["d".toList], ["e".toList, "fgh".toList]], 2, [.center, .right]⟩
    t.CellsOneLine ∧ (∃ row ∈ t.rows, row ≠ []) ∧
      t.draw = ("+----+-----+\n| ab |   c |\n| d  |     |\n+----+-----+\n" ++
        "| e  | fgh |\n+----+-----+").toList ∧
      (textLines t.draw).length = 6 ∧
      ((textLines t.draw)[4]?.map fun l => unpadded (t.field l 0)) = some ['e'] := by
  intro t
  have cells : t.CellsOneLine := by
    unfold CellsOneLine
    decide
  have some : ∃ row ∈ t.rows, row ≠ [] := by decide
  obtain ⟨length, _, _, _, rows⟩ := (table_drawn cells).2 some
  obtain ⟨_, l, located, fields⟩ := rows 2 _ rfl
  obtain ⟨_, _, _, _, _, read⟩ := fields 0 (by decide)
  refine ⟨cells, some, by decide, length, ?_⟩
  rw [show (4 : Nat) = t.lineIndex 2 by decide, located, Option.map_some, read]
  rfl

end Table

end Gemtext
