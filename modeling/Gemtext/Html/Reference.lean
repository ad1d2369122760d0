import Gemtext.Text.Digits
import Gemtext.Text.NamedCharacter
import Gemtext.Text.Search

/-! # Character references in raw HTML

A reference stands for a character, by name or by number. A name need not end with a
semicolon. A reference is recognised only when a character that cannot belong to it
follows; at the very end of a text it stays as it is written. A decimal number may have too
many digits to be read.
-/

namespace Gemtext.Html

open Text

/-- The characters that the code points 128 to 159 stand for in references. Five of them
stand for themselves. -/
def legacyCharacters : List Char :=
  ['\u20AC', '\u0081', '\u201A', '\u0192', '\u201E', '\u2026', '\u2020', '\u2021',
   '\u02C6', '\u2030', '\u0160', '\u2039', '\u0152', '\u008D', '\u017D', '\u008F',
   '\u0090', '\u2018', '\u2019', '\u201C', '\u201D', '\u2022', '\u2013', '\u2014',
   '\u02DC', '\u2122', '\u0161', '\u203A', '\u0153', '\u009D', '\u017E', '\u0178']

/-- The character of a numeric reference. Zero, surrogates and numbers past the last code
point give the replacement character. -/
def characterOfNumber (n : Nat) : Char :=
  if n = 0 ∨ 0x10FFFF < n ∨ (0xD800 ≤ n ∧ n ≤ 0xDFFF) then '\uFFFD'
  else if 128 ≤ n ∧ n ≤ 159 then legacyCharacters.getD (n - 128) '\uFFFD'
  else Char.ofNat n

def dropSemicolon : List Char → List Char
  | ';' :: t => t
  | t => t

/-- Reads a number behind `&#`. The digits have to end before a character that is no
hexadecimal digit. There is no character for a decimal number with too many digits. -/
def numericReference? (t : List Char) : Option (Option Char × List Char) :=
  let read (base : Nat) (isDigit : Char → Bool) (t : List Char) :
      Option (Option Char × List Char) :=
    let digits := t.takeWhile isDigit
    match t.dropWhile isDigit with
    | [] => none
    | c :: rest =>
      if digits.isEmpty || isHexDigit c then none
      else
        let character :=
          if base = 10 ∧ digitLimit < digits.length then none
          else some (characterOfNumber (numberOfDigits base digits))
        some (character, dropSemicolon (c :: rest))
  match t with
  | [] => none
  | c :: rest => if c == 'x' || c == 'X' then read 16 isHexDigit rest else read 10 Char.isDigit t

/-- A decimal reference with too many digits begins the text. Nothing has to end it. -/
def isLongReference (t : List Char) : Bool :=
  match dropPrefix? "&#".toList t with
  | some u => digitLimit < (u.takeWhile Char.isDigit).length
  | none => false

/-- Somewhere in a text stands a decimal reference with too many digits. -/
def hasLongReference : List Char → Bool
  | [] => false
  | c :: t => isLongReference (c :: t) || hasLongReference t

/-- A character of a name behind its first letter. -/
def isNameChar (c : Char) : Bool := c.isAlphanum || c == '-' || c == '.'

/-- Reads a name behind `&`. The name runs as far as it can, but something has to follow
it: at the end of the text it gives back its last hyphen or full stop. -/
def referenceName? (t : List Char) : Option (List Char × List Char) :=
  match t with
  | [] => none
  | c :: _ =>
    if !c.isAlpha then none
    else
      let name := t.takeWhile isNameChar
      match t.dropWhile isNameChar with
      | d :: rest => some (name, d :: rest)
      | [] =>
        match name.reverse.dropWhile Char.isAlphanum with
        | [] => none
        | _ :: before =>
          let short := before.reverse
          some (short, t.drop short.length)

/-- The text that a named reference stands for. A name that HTML does not know stays, with
its ampersand, and loses its semicolon. -/
def expandName (name : List Char) : List Char :=
  match namedCharacters? name with
  | some characters => characters
  | none => '&' :: name

end Gemtext.Html
