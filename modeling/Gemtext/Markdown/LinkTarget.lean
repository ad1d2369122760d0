import Gemtext.Markdown.Escape
import Gemtext.Text.Blank
import Gemtext.Text.Case
import Gemtext.Text.Split

/-! # Link targets

A link target is a destination and a title. A destination stands in angle brackets or runs
on to the next blank, with its parentheses in pairs. A title stands in quotation marks,
apostrophes or parentheses, and may run over several lines. Definitions of links are
looked up by label, and labels that differ in case or in blanks only are the same.
-/

namespace Gemtext.Markdown

open Text

def isSpace (c : Char) : Bool := c == ' ' || c == '\t'

def isGap (c : Char) : Bool := isSpace c || c == '\n'

/-- The number of characters of a destination in angle brackets, without the brackets. -/
def bracketedLength? : List Char → Option Nat
  | [] => none
  | '>' :: _ => some 0
  | '\n' :: _ => none
  | '<' :: _ => none
  | '\\' :: _ :: rest => (bracketedLength? rest).map (· + 2)
  | _ :: rest => (bracketedLength? rest).map (· + 1)

/-- A character that ends a destination without brackets: a space or a control character. -/
def endsDestination (c : Char) : Bool := c.toNat ≤ 0x20 || c.toNat == 0x7F

/-- The number of characters of a destination without brackets, inside so many open
parentheses. There may be 32 of them, and none may be open at the end. -/
def bareLength? (depth : Nat) : List Char → Option Nat
  | [] => if depth = 0 then some 0 else none
  | '\\' :: ' ' :: _ => if depth = 0 then some 0 else none
  | '\\' :: _ :: rest => (bareLength? depth rest).map (· + 2)
  | '(' :: rest => if depth < 32 then (bareLength? (depth + 1) rest).map (· + 1) else none
  | ')' :: rest =>
    match depth with
    | 0 => some 0
    | depth + 1 => (bareLength? depth rest).map (· + 1)
  | c :: rest =>
    if endsDestination c then if depth = 0 then some 0 else none
    else (bareLength? depth rest).map (· + 1)

/-- Reads a destination, and gives the rest behind it. -/
def destination? (t : List Char) : Option (List Char × List Char) :=
  match t with
  | '<' :: t => (bracketedLength? t).map fun n => (unescape (t.take n), t.drop (n + 1))
  | _ =>
    match bareLength? 0 t with
    | none | some 0 => none
    | some n => some (unescape (t.take n), t.drop n)

inductive Title where
  /-- The title has ended, and this is behind it. -/
  | closed (title rest : List Char)
  /-- The title may go on in the next line. -/
  | open (title : List Char)
  /-- It is no title. -/
  | failed

/-- Reads a title up to its closing mark. `read` collects its characters, backwards. -/
def titleFrom (closing : Char) (read : List Char) : List Char → Title
  | [] => .open (unescape read.reverse)
  | '\\' :: c :: rest => titleFrom closing (c :: '\\' :: read) rest
  | c :: rest =>
    if c == closing then .closed (unescape read.reverse) rest
    else if c == '(' && closing == ')' then .failed
    else titleFrom closing (c :: read) rest

/-- The mark that closes a title, by the mark that opens it. -/
def closingMark? (c : Char) : Option Char :=
  if c == '\x22' || c == '\x27' then some c else if c == '(' then some ')' else none

def title? (t : List Char) : Option (List Char × List Char) :=
  match t with
  | [] => none
  | c :: t =>
    match (closingMark? c).map fun closing => titleFrom closing [] t with
    | some (.closed title rest) => some (title, rest)
    | _ => none

structure Target where
  href : List Char
  title : List Char
  deriving DecidableEq, Repr

/-- The label that a link and its definition share. -/
def foldLabel (label : List Char) : List Char := upper (lower (joinWith [' '] (words label)))

end Gemtext.Markdown
