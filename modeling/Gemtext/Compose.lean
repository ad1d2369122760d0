import Gemtext.Error
import Gemtext.Html.PlainText

/-! # Composition

The text of a node and its descendants on one logical line. A line of the page is such a
text; so are the label of a link, a table cell and the words of a quote. Inside a quote
every line break is followed by the quote mark, elsewhere breaks become blanks, and hard
breaks become line feeds.

Composition fails on a footnote reference without a number, or with one that has too many
digits, and on raw HTML that is refused, at the first such place in document order.
-/

namespace Gemtext

open Text

structure Style where
  /-- Inside a quote. -/
  quoted : Bool := false
  /-- With the plain-text marks for styled spans. -/
  markup : Bool := true
  deriving DecidableEq, Repr

namespace Style

/-- What stands for a line break of the source, and between blocks. -/
def separator (style : Style) : List Char := if style.quoted then "\n> ".toList else [' ']

def hardBreak (style : Style) : List Char := if style.quoted then "\n> ".toList else ['\n']

def delimiter (style : Style) (tag : Tag) : List Char :=
  if style.markup then tag.delimiter else []

end Style

/-- The mark of a footnote reference in the text. -/
def footnoteMark (number : Int) : Except Error (List Char) :=
  (writeNumber number).map fun t => "[^".toList ++ t ++ [']']

def Attributes.formats (attrs : Attributes) : List (List Char) := words (attrs.format.getD [])

/-- The plain text of raw HTML as part of a composed text. -/
def composeRaw (style : Style) (inText : Bool) (attrs : Attributes) (source : List Char) :
    Except Error (List Char) :=
  if attrs.formats.contains "html".toList then
    match Html.plainText style.hardBreak source with
    | .error e => .error (.rejected e)
    | .ok t => .ok (if inText then t else trim t)
  else .ok []

/-- A subscript or superscript: the source of its content between marks. -/
def composeScript (style : Style) (opening closing source : List Char) : List Char :=
  let content := joinLines [' '] source
  if style.markup then opening ++ content ++ closing else content

/-- The text of a literal block as part of a composed text. -/
def composeLiteral (style : Style) (source : List Char) : List Char :=
  joinLines style.separator (dropEndBreaks (unixBreaks source))

/-- Joins composed children. Lists are composed on their own; a block among the other
children brings a separator between all of them. -/
def joinParts (style : Style) (children : List Node) (parts : List (List Char)) : List Char :=
  let separated := children.any fun c => !c.tagIs Tag.isList && c.tagIs Tag.isBlock
  (if separated then style.separator else []).intercalate parts

mutual
/-- Composes a node. `inText` tells whether its parent is a text element. -/
def compose (style : Style) (inText : Bool) : Node → Except Error (List Char)
  | .text t => .ok (joinLines style.separator t)
  | .element tag attrs children =>
    match tag with
    | .footnoteReference =>
      match attrs.noteid with
      | some number => footnoteMark number
      | none => .error (.missing "noteid".toList)
    | .hardbreak => .ok style.hardBreak
    | .raw => composeRaw style inText attrs (Node.element tag attrs children).source
    | .subscript =>
      .ok (composeScript style "_\x7b".toList "\x7d".toList (Node.element tag attrs children).source)
    | .superscript =>
      .ok (composeScript style "^(".toList ")".toList (Node.element tag attrs children).source)
    | .literalBlock => .ok (composeLiteral style (Node.element tag attrs children).source)
    | tag =>
      if tag = .image ∧ children = [] then .ok (joinLines style.separator (attrs.alt.getD []))
      else
        match composeParts style tag.isTextual children with
        | .error e => .error e
        | .ok parts =>
          .ok (style.delimiter tag ++ joinParts style children parts ++ style.delimiter tag)

/-- The composed children that are no lists, without the empty ones. -/
def composeParts (style : Style) (inText : Bool) : List Node → Except Error (List (List Char))
  | [] => .ok []
  | c :: rest =>
    if c.tagIs Tag.isList then composeParts style inText rest
    else
      match compose style inText c with
      | .error e => .error e
      | .ok t =>
        match composeParts style inText rest with
        | .error e => .error e
        | .ok parts => .ok (if t.isEmpty then parts else t :: parts)
end

/-- The text of a node on a single line, without marks for styled spans. -/
def plainLine (inText : Bool) (n : Node) : Except Error (List Char) :=
  (compose { markup := false } inText n).map (joinLines [' '])

/-- The label of a link line: the text of a node on a single line. -/
def label (inText : Bool) (n : Node) : Except Error (List Char) :=
  (compose {} inText n).map fun t => trim (joinLines [' '] t)

/-! ## Marks -/

theorem footnoteMark_eq_ok {number : Int} {t : List Char} :
    footnoteMark number = .ok t ↔
      IsWritable number ∧ t = "[^".toList ++ decimal number ++ [']'] :=
  writeNumber_map_eq_ok

theorem footnoteMark_eq_error {number : Int} {e : Error} :
    footnoteMark number = .error e ↔ ¬ IsWritable number ∧ e = .longNumber :=
  writeNumber_map_eq_error

/-! ## Single lines -/

theorem decimal_no_break (number : Int) : ∀ c ∈ decimal number, isBreak c = false := by
  intro c member
  rw [← Bool.not_eq_true, isBreak_iff]
  rcases of_mem_decimal member with isDigit | rfl
  · rintro (rfl | rfl) <;> cases isDigit
  · simp

theorem footnoteMark_no_break {number : Int} {t : List Char} (h : footnoteMark number = .ok t) :
    ∀ c ∈ t, isBreak c = false := by
  have opens : ∀ c ∈ "[^".toList, isBreak c = false := by simp [isBreak]
  obtain ⟨_, rfl⟩ := footnoteMark_eq_ok.mp h
  refine List.forall_mem_append.mpr ⟨List.forall_mem_append.mpr ⟨opens, ?_⟩, by simp [isBreak]⟩
  exact decimal_no_break number

theorem composeScript_no_break (style : Style) {opening closing : List Char}
    (opens : ∀ c ∈ opening, isBreak c = false) (closes : ∀ c ∈ closing, isBreak c = false)
    (source : List Char) : ∀ c ∈ composeScript style opening closing source, isBreak c = false := by
  have content : ∀ c ∈ joinLines [' '] source, isBreak c = false :=
    joinLines_no_break (by simp [isBreak]) source
  simp only [composeScript]
  split
  · exact List.forall_mem_append.mpr ⟨List.forall_mem_append.mpr ⟨opens, content⟩, closes⟩
  · exact content

theorem plainLine_no_break {inText : Bool} {n : Node} {t : List Char}
    (h : plainLine inText n = .ok t) : ∀ c ∈ t, isBreak c = false := by
  unfold plainLine at h
  cases composed : compose { markup := false } inText n with
  | error e =>
    rw [composed] at h
    cases h
  | ok whole =>
    rw [composed] at h
    cases h
    exact joinLines_no_break (by simp [isBreak]) whole

theorem label_no_break {inText : Bool} {n : Node} {t : List Char} (h : label inText n = .ok t) :
    ∀ c ∈ t, isBreak c = false := by
  unfold label at h
  cases composed : compose {} inText n with
  | error e =>
    rw [composed] at h
    cases h
  | ok whole =>
    rw [composed] at h
    cases h
    exact fun c member => joinLines_no_break (by simp [isBreak]) whole c (trim_subset _ member)

end Gemtext
