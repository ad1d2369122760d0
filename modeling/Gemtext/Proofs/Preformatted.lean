import Gemtext.Convert
import Gemtext.Proofs.LinkLines

/-! # Reading preformatted text back

Who reads a page takes a line that begins with three backticks for a switch between plain and
preformatted text. A table is read back as the lines of its drawing, and behind it the reader is in
plain text again. Code is written as it stands, so it is read back exactly if none of its lines is
a switch itself; one that is ends the preformatted text early.
-/

namespace Gemtext

open Text

/-! ## Lines -/

/-- The lines of a text. A line feed ends a line, and what stands behind the last line feed is a
    line unless it is empty. -/
def textLines : List Char → List (List Char)
  | [] => []
  | c :: rest =>
      if c = '\n' then [] :: textLines rest
      else
        match textLines rest with
        | [] => [[c]]
        | line :: more => (c :: line) :: more

section TextLines

variable {line s t : List Char} {lines : List (List Char)}

theorem textLines_ne_nil (some : t ≠ []) : textLines t ≠ [] := by
  cases t with
  | nil => exact absurd rfl some
  | cons c rest =>
      rw [textLines]
      split
      · simp
      · split <;> simp

theorem textLines_line (one : '\n' ∉ line) (rest : List Char) :
    textLines (line ++ '\n' :: rest) = line :: textLines rest := by
  induction line with
  | nil => simp [textLines]
  | cons c line ih =>
      obtain ⟨differ, behind⟩ := not_or.mp (mt List.mem_cons.mpr one)
      rw [List.cons_append, textLines, if_neg (Ne.symm differ), ih behind]

/-- An unfinished line is a line. -/
theorem textLines_unfinished (one : '\n' ∉ line) (some : line ≠ []) : textLines line = [line] := by
  induction line with
  | nil => exact absurd rfl some
  | cons c line ih =>
      obtain ⟨differ, behind⟩ := not_or.mp (mt List.mem_cons.mpr one)
      rw [textLines, if_neg (Ne.symm differ)]
      cases line with
      | nil => rfl
      | cons d rest => rw [ih behind (by simp)]

theorem textLines_lines (each : ∀ line ∈ lines, '\n' ∉ line) (rest : List Char) :
    textLines (lines.flatMap (· ++ ['\n']) ++ rest) = lines ++ textLines rest := by
  induction lines with
  | nil => rfl
  | cons line more ih =>
      obtain ⟨one, behind⟩ := List.forall_mem_cons.mp each
      rw [List.flatMap_cons, List.append_assoc, List.append_assoc, List.singleton_append,
        textLines_line one, ih behind, List.cons_append]

/-- Lines that a line feed separates. -/
theorem textLines_intercalate (each : ∀ line ∈ lines, '\n' ∉ line ∧ line ≠ []) :
    textLines (['\n'].intercalate lines) = lines := by
  induction lines with
  | nil => rfl
  | cons line more ih =>
      obtain ⟨⟨one, some⟩, behind⟩ := List.forall_mem_cons.mp each
      cases more with
      | nil => simp [textLines_unfinished one some]
      | cons next more =>
          rw [List.intercalate_cons_cons, List.append_assoc, List.singleton_append,
            textLines_line one, ih behind]

/-- Where a text is brought to the end of its last line, its lines stay what they are. -/
theorem textLines_finished (t rest : List Char) :
    textLines (t ++ (if t = [] ∨ t.getLast? = some '\n' then [] else ['\n']) ++ rest) =
      textLines t ++ textLines rest := by
  induction t with
  | nil => simp [textLines]
  | cons c t ih =>
      cases t with
      | nil => by_cases feed : c = '\n' <;> simp [textLines, feed]
      | cons d t =>
          have same : (c :: d :: t = [] ∨ (c :: d :: t).getLast? = some '\n') ↔
              (d :: t = [] ∨ (d :: t).getLast? = some '\n') := by simp
          rw [if_congr same rfl rfl, List.cons_append, List.cons_append, textLines, ih]
          conv_rhs => rw [textLines]
          cases lines : textLines (d :: t) with
          | nil => exact absurd lines (textLines_ne_nil (by simp))
          | cons line more => split <;> rfl

end TextLines

/-! ## Switching -/

/-- Whether a line switches between plain and preformatted text. -/
def isSwitch (line : List Char) : Bool := toggle.isPrefixOf line

/-- Reads lines, the first of which is preformatted or not: the preformatted ones among them, and
    whether preformatted text goes on behind them. -/
def readBack : (inside : Bool) → List (List Char) → List (List Char) × Bool
  | inside, [] => ([], inside)
  | inside, line :: rest =>
      if isSwitch line then readBack (!inside) rest
      else ((if inside then [line] else []) ++ (readBack inside rest).1, (readBack inside rest).2)

theorem readBack_append (inside : Bool) (first second : List (List Char)) :
    readBack inside (first ++ second) =
      ((readBack inside first).1 ++ (readBack (readBack inside first).2 second).1,
        (readBack (readBack inside first).2 second).2) := by
  induction first generalizing inside with
  | nil => rfl
  | cons line first ih =>
      rw [List.cons_append, readBack, readBack, ih, ih]
      split
      · rfl
      · simp

/-- No switch is read as preformatted text. -/
theorem not_isSwitch_of_mem_readBack {inside : Bool} {lines : List (List Char)} {line : List Char}
    (member : line ∈ (readBack inside lines).1) : isSwitch line = false := by
  induction lines generalizing inside with
  | nil => cases member
  | cons first rest ih =>
      rw [readBack] at member
      split at member
      · exact ih member
      · next plain =>
          rcases List.mem_append.mp member with here | behind
          · cases inside with
            | true =>
                obtain rfl := List.mem_singleton.mp here
                exact Bool.eq_false_iff.mpr plain
            | false => cases here
          · exact ih behind

theorem readBack_plain {lines : List (List Char)} (plain : ∀ line ∈ lines, isSwitch line = false)
    (inside : Bool) : readBack inside lines = (if inside then lines else [], inside) := by
  induction lines with
  | nil => cases inside <;> rfl
  | cons line rest ih =>
      obtain ⟨first, behind⟩ := List.forall_mem_cons.mp plain
      rw [readBack, first, ih behind]
      cases inside <;> rfl

/-- Lines between two switches are read back exactly if none of them is a switch. -/
theorem readBack_between {opening : List Char} (switch : isSwitch opening = true)
    (lines : List (List Char)) :
    readBack false (opening :: lines ++ [toggle, []]) = (lines, false) ↔
      ∀ line ∈ lines, isSwitch line = false := by
  have opened : readBack false (opening :: lines ++ [toggle, []]) =
      readBack true (lines ++ [toggle, []]) := by
    rw [List.cons_append, readBack, if_pos switch]
    rfl
  rw [opened]
  constructor
  · intro same line member
    have held : line ∈ (readBack true (lines ++ [toggle, []])).1 := by
      rw [same]
      exact member
    exact not_isSwitch_of_mem_readBack held
  · intro plain
    rw [readBack_append, readBack_plain plain]
    have closed : readBack true [toggle, []] = ([], false) := by decide
    rw [closed]
    simp

/-! ## Code -/

theorem isSwitch_toggle (t : List Char) : isSwitch (toggle ++ t) = true :=
  List.isPrefixOf_iff_prefix.mpr (List.prefix_append toggle t)

/-- The lines of a literal block: two switches, and between them the lines of the literal. -/
theorem textLines_literalText {attrs : Attributes} (one : '\n' ∉ attrs.info.getD [])
    (source : List Char) :
    ∃ opening, isSwitch opening = true ∧
      textLines (literalText attrs source) =
        opening :: textLines (unixBreaks source) ++ [toggle, []] := by
  refine ⟨toggle ++ (if attrs.fenced.getD true then attrs.info.getD [] else []),
    isSwitch_toggle _, ?_⟩
  have single : '\n' ∉ toggle ++ (if attrs.fenced.getD true then attrs.info.getD [] else []) := by
    split <;> simp [toggle, one]
  have ending : textLines (toggle ++ "\n\n".toList) = [toggle, []] := by decide
  unfold literalText
  dsimp only
  simp only [List.append_assoc]
  rw [← List.append_assoc toggle, List.singleton_append, textLines_line single, ← List.append_assoc,
    textLines_finished, ending]
  rfl

/-! ## Tables -/

namespace Table

/-- A table whose cells are single lines. -/
def CellsOneLine (t : Table) : Prop := ∀ row ∈ t.rows, ∀ cell ∈ row, '\n' ∉ cell

theorem intercalate_one_line {sep : List Char} (one : '\n' ∉ sep) {parts : List (List Char)}
    (each : ∀ part ∈ parts, '\n' ∉ part) : '\n' ∉ sep.intercalate parts :=
  fun member => (of_mem_intercalate member).elim one fun ⟨part, inside, feed⟩ =>
    each part inside feed

theorem place_one_line {cell : List Char} (one : '\n' ∉ cell) (align : Align) (width : Nat) :
    '\n' ∉ align.place width cell := by
  simp [Align.place, one]

theorem cell_one_line {row : List (List Char)} (each : ∀ cell ∈ row, '\n' ∉ cell) (column : Nat) :
    '\n' ∉ cell row column := by
  rw [cell, List.getD_eq_getElem?_getD]
  cases found : row[column]? with
  | none => simp
  | some c => exact each c (List.mem_of_getElem? found)

theorem rule_one_line (t : Table) : '\n' ∉ t.rule := by
  have columns : '\n' ∉ ['+'].intercalate
      ((List.range t.columns).map fun j => List.replicate (t.width j + 2) '-') :=
    intercalate_one_line (by simp) (by simp)
  simp [rule, columns]

theorem line_one_line (t : Table) {row : List (List Char)} (each : ∀ cell ∈ row, '\n' ∉ cell) :
    '\n' ∉ t.line row := by
  have columns : '\n' ∉ " | ".toList.intercalate ((List.range t.columns).map fun j =>
      (t.aligns.getD j .left).place (t.width j) (cell row j)) := by
    refine intercalate_one_line (by decide) fun part member => ?_
    obtain ⟨j, _, rfl⟩ := List.mem_map.mp member
    exact place_one_line (cell_one_line each j) _ _
  simp only [line, List.mem_append, not_or]
  exact ⟨⟨by decide, columns⟩, by decide⟩

theorem mem_body {t : Table} {l : List Char} (member : l ∈ t.body) :
    l = t.rule ∨ ∃ row ∈ t.rows, l = t.line row := by
  have drawn (inside : l ∈ t.rows.map t.line) : ∃ row ∈ t.rows, l = t.line row := by
    obtain ⟨row, held, rfl⟩ := List.mem_map.mp inside
    exact ⟨row, held, rfl⟩
  unfold body at member
  dsimp only at member
  split at member
  · rcases List.mem_append.mp member with before | behind
    · exact .inr (drawn (List.mem_of_mem_take before))
    · rcases List.mem_cons.mp behind with rfl | behind
      · exact .inl rfl
      · exact .inr (drawn (List.mem_of_mem_drop behind))
  · exact .inr (drawn member)

theorem mem_lines {t : Table} {l : List Char} (member : l ∈ t.lines) :
    l = t.rule ∨ ∃ row ∈ t.rows, l = t.line row := by
  unfold lines at member
  split at member
  · cases member
  · rcases List.mem_append.mp member with above | below
    · rcases List.mem_cons.mp above with rfl | inside
      · exact .inl rfl
      · exact mem_body inside
    · exact .inl (List.mem_singleton.mp below)

/-- A drawing consists of single lines, none of which is empty or a switch. -/
theorem lines_plain {t : Table} (cells : t.CellsOneLine) {l : List Char} (member : l ∈ t.lines) :
    ('\n' ∉ l ∧ l ≠ []) ∧ isSwitch l = false := by
  rcases mem_lines member with rfl | ⟨row, held, rfl⟩
  · exact ⟨⟨rule_one_line t, by simp [rule]⟩, rfl⟩
  · exact ⟨⟨line_one_line t (cells row held), by simp [line]⟩, rfl⟩

end Table

theorem plainLine_one_line {inText : Bool} {n : Node} {t : List Char}
    (h : plainLine inText n = .ok t) : '\n' ∉ t :=
  no_feed_of_no_break (plainLine_no_break h)

theorem rowCells_one_line {entries : List Node} {cells : List (List Char)}
    (h : rowCells entries = .ok cells) : ∀ cell ∈ cells, '\n' ∉ cell := by
  induction entries generalizing cells with
  | nil =>
      cases h
      exact nofun
  | cons entry rest ih =>
      rw [rowCells] at h
      split at h
      · cases h
      · next cell first =>
          obtain ⟨more, behind, rfl⟩ := map_eq_ok.mp h
          exact List.forall_mem_cons.mpr ⟨plainLine_one_line first, ih behind⟩

theorem allCells_one_line {rows : List (Bool × List Node)}
    {cells : List (Bool × List (List Char))} (h : allCells rows = .ok cells) :
    ∀ row ∈ cells, ∀ cell ∈ row.2, '\n' ∉ cell := by
  induction rows generalizing cells with
  | nil =>
      cases h
      exact nofun
  | cons row rest ih =>
      rw [allCells] at h
      split at h
      · cases h
      · next own first =>
          obtain ⟨more, behind, rfl⟩ := map_eq_ok.mp h
          exact List.forall_mem_cons.mpr ⟨rowCells_one_line first, ih behind⟩

/-- The cells of a table node are single lines, whatever is inside them. -/
theorem tableOf_cellsOneLine {children : List Node} {table : Table}
    (h : tableOf children = .ok table) : table.CellsOneLine := by
  obtain ⟨cells, listed, rfl⟩ := map_eq_ok.mp h
  intro row member
  have each := allCells_one_line listed
  rcases List.mem_append.mp member with head | behind
  · obtain ⟨own, inside, rfl⟩ := List.mem_map.mp head
    exact each own (List.mem_filter.mp inside).1
  · obtain ⟨own, inside, rfl⟩ := List.mem_map.mp behind
    exact each own (List.mem_filter.mp inside).1

/-- The lines of a table: two switches, and between them the lines of its drawing. -/
theorem textLines_drawing {table : Table} (cells : table.CellsOneLine) :
    textLines (toggle ++ ['\n'] ++ table.draw ++ (if table.draw.isEmpty then [] else ['\n']) ++
      (toggle ++ "\n\n".toList)) = toggle :: table.lines ++ [toggle, []] := by
  have opening : '\n' ∉ toggle := by decide
  have ending : textLines (toggle ++ "\n\n".toList) = [toggle, []] := by decide
  have each : ∀ l ∈ table.lines, '\n' ∉ l := fun l member => (Table.lines_plain cells member).1.1
  have drawing : table.draw ++ (if table.draw.isEmpty then [] else ['\n']) =
      table.lines.flatMap (· ++ ['\n']) := by
    cases lines : table.lines with
    | nil => simp [Table.draw, lines]
    | cons l rest =>
        have some : l ≠ [] := (Table.lines_plain cells (by simp [lines])).1.2
        have drawn : table.draw.isEmpty = false := by
          rw [Table.draw, lines]
          cases rest with
          | nil => simpa using some
          | cons next rest => simp [List.intercalate_cons_cons]
        rw [drawn, ← intercalate_newline (by simp), Table.draw, lines]
        rfl
  rw [List.append_assoc, List.append_assoc, List.append_assoc, List.singleton_append,
    textLines_line opening, ← List.append_assoc, drawing, textLines_lines each, ending]
  rfl

/-! ## Reading back -/

/-- Preformatted text is read back from what a walk writes of a block before its links. Code is
    read back exactly if none of its lines is a switch. A table that can be written is always read
    back, as the lines of its drawing. -/
theorem preformatted_read_back (w : Walk) :
    (∀ attrs children, '\n' ∉ attrs.info.getD [] →
      let block := Node.element .literalBlock attrs children
      let code := textLines (unixBreaks block.source)
      (w.bare block).error = none ∧
        (readBack false (textLines (w.bare block).text) = (code, false) ↔
          ∀ line ∈ code, isSwitch line = false)) ∧
      ∀ attrs children, (w.bare (.element .table attrs children)).error = none →
        ∃ table, tableOf children = .ok table ∧
          readBack false (textLines (w.bare (.element .table attrs children)).text) =
            (textLines table.draw, false) := by
  constructor
  · intro attrs children one block code
    obtain ⟨opening, switch, lines⟩ := textLines_literalText one block.source
    refine ⟨rfl, ?_⟩
    rw [← readBack_between switch, ← lines]
    rfl
  · intro attrs children ok
    have written : w.bare (.element .table attrs children) =
        (tableBody children).andThen ⟨toggle ++ "\n\n".toList, none⟩ :=
      Written.andThen_nothing _
    rw [written] at ok ⊢
    unfold tableBody at ok ⊢
    cases held : tableOf children with
    | error e => simp [held, Except.map, Written.ofExcept, Written.fail, Written.andThen] at ok
    | ok table =>
        have cells := tableOf_cellsOneLine held
        refine ⟨table, rfl, ?_⟩
        have drawn : textLines table.draw = table.lines :=
          textLines_intercalate fun l member => (Table.lines_plain cells member).1
        have between := (readBack_between (isSwitch_toggle []) table.lines).mpr fun l member =>
          (Table.lines_plain cells member).2
        rw [List.append_nil, ← textLines_drawing cells] at between
        rw [drawn]
        exact between

/-- Code with both kinds of line breaks and an info string, and a table with three backticks in a
    cell. -/
theorem preformatted_read_back_cell :
    let w : Walk := ⟨{}, none, none⟩
    let code : Node :=
      .element .literalBlock { fenced := some true, info := some "sh".toList }
        [.text "ls\r\n\r ```".toList]
    let cell : Node := .element .entry {} [.element .paragraph {} [.text "```".toList]]
    let table : Node := .element .table {} [.element .tbody {} [.element .row {} [cell]]]
    let drawing := "+-----+\n| ``` |\n+-----+".toList
    '\n' ∉ "sh".toList ∧ (w.bare table).error = none ∧
      readBack false (textLines (w.bare code).text) = (["ls".toList, [], " ```".toList], false) ∧
      readBack false (textLines (w.bare table).text) = (textLines drawing, false) := by
  intro w code cell table drawing
  have one : '\n' ∉ "sh".toList := by decide
  have ok : (w.bare table).error = none := by decide
  have plain : ∀ line ∈ textLines (unixBreaks code.source), isSwitch line = false := by decide
  obtain ⟨_, held, read⟩ := (preformatted_read_back w).2 {} table.children ok
  have drawn : tableOf table.children = .ok ⟨[["```".toList]], 0, [.left]⟩ := rfl
  obtain rfl := Except.ok.inj (drawn.symm.trans held)
  exact ⟨one, ok, ((preformatted_read_back w).1 code.attrs code.children one).2.mpr plain, read⟩

/-- A fence inside of code that tildes enclose ends the code early, and the fence behind the code
    begins preformatted text. -/
theorem fence_in_code_ends_it :
    let code : Node :=
      .element .literalBlock { fenced := some true, info := some [] } [.text "```\n".toList]
    convert "~~~\n```\n~~~".toList {} none = .ok "```\n```\n```\n".toList ∧
      Document.ofMarkdown? "~~~\n```\n~~~".toList = .ok ⟨[code], []⟩ ∧
      textLines (unixBreaks code.source) = ["```".toList] ∧
      readBack false (textLines (Walk.bare ⟨{}, none, none⟩ code).text) = ([[]], true) := by
  intro code
  have read : Document.ofMarkdown? "~~~\n```\n~~~".toList = .ok ⟨[code], []⟩ := by decide +kernel
  refine ⟨?_, read, by decide, by decide⟩
  rw [convert, read]
  dsimp only [Except.bind, code]
  cbv

end Gemtext
