import Gemtext.Markdown.Line

/-! # Beginnings of blocks

What the line says that a block begins with. A block begins less than four columns behind
the indentation of the blocks around it; further on, the line is code.
-/

namespace Gemtext.Markdown

open Text

structure Around where
  /-- The column where the content of the innermost block begins. -/
  indent : Nat := 0
  /-- The column of the innermost list. -/
  list : Option Nat := none
  /-- Whether a description is among the blocks. -/
  inDescription : Bool := false

/-- Whether a line stands so far to the right that it is code. -/
def Around.isCode (a : Around) (l : Line) : Bool := (a.indent : Int) + 4 ≤ l.indent

/-- Whether a line stands to the left of the content around it. -/
def Around.isOutside (a : Around) (l : Line) : Bool := l.indent < a.indent

structure Fence where
  char : Char
  length : Nat
  info : List Char

/-- The fence that a line begins with: three or more backticks or tildes. Behind backticks
there is no other backtick. -/
def fence? (t : List Char) : Option Fence :=
  match t with
  | [] => none
  | c :: _ =>
    let length := (t.takeWhile (· == c)).length
    let info := t.drop length
    if (c == '~' || (c == '\x60' && !info.contains '\x60')) && 3 ≤ length then
      some ⟨c, length, info⟩
    else none

def Fence.isClosedBy (f : Fence) (t : List Char) : Bool :=
  f.length ≤ (t.takeWhile (· == f.char)).length && (t.dropWhile (· == f.char)).all isSpace

/-- Whether a line is a rule: three or more of one mark, and blanks. -/
def isRule (t : List Char) : Bool :=
  match t with
  | [] => false
  | c :: _ =>
    (c == '*' || c == '-' || c == '_') && t.all (fun d => d == c || isSpace d) && 3 ≤ t.count c

/-- Whether a text is blank at its head, or empty. -/
def beginsBlank (t : List Char) : Bool := t.head?.all isSpace

structure Marker where
  /-- The character that marks the items of the list: a bullet, or what follows a number. -/
  char : Char
  /-- The number of an item of an ordered list. -/
  number : Option Nat
  /-- How many characters the marker has. -/
  width : Nat

/-- The marker that a line begins with: a bullet, or up to nine digits and a full stop or a
parenthesis. A blank or nothing follows. -/
def marker? (t : List Char) : Option Marker :=
  let digits := t.takeWhile Char.isDigit
  match t.drop digits.length with
  | [] => none
  | c :: rest =>
    if !beginsBlank rest then none
    else if digits.isEmpty then
      if c == '*' || c == '-' || c == '+' then some ⟨c, none, 1⟩ else none
    else if (c == '.' || c == ')') && digits.length ≤ 9 then
      some ⟨c, some (numberOfDigits 10 digits), digits.length + 1⟩
    else none

/-- Whether a marker goes on with the list that another began. -/
def Marker.goesOn (first m : Marker) : Bool :=
  m.char == first.char && m.number.isSome == first.number.isSome

def headingLevel? (t : List Char) : Option Nat :=
  let level := (t.takeWhile (· == '#')).length
  if 1 ≤ level && level ≤ 6 && beginsBlank (t.drop level) then some level else none

/-- The level of a heading that a line underlines. -/
def underlineLevel? (t : List Char) : Option Nat :=
  match t with
  | [] => none
  | c :: _ =>
    if (c == '=' || c == '-') && (t.dropWhile (· == c)).all isSpace then
      some (if c == '=' then 1 else 2)
    else none

/-- The rest of a line behind the mark of a description. A blank follows the mark, and then
something else. -/
def description? (t : List Char) : Option (List Char) :=
  match t with
  | c :: rest =>
    if (c == ':' || c == '~') && rest.head?.any isSpace && !rest.all isSpace then some rest
    else none
  | [] => none

/-- The label of the note that a line defines, and the rest of the line. -/
def noteDefinition? (t : List Char) : Option (List Char × List Char) :=
  match t with
  | '[' :: '^' :: t =>
    let label := t.takeWhile fun c => c != ' ' && c != ']'
    match t.drop label.length with
    | ']' :: ':' :: rest => if label.isEmpty then none else some (label, rest)
    | _ => none
  | _ => none

end Gemtext.Markdown
