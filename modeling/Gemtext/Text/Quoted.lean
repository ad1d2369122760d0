import Gemtext.Text.Digits
import Gemtext.Text.Printable

/-! # Quoted text

A piece of a text that a message quotes stands between apostrophes, or between double
quotes when it holds an apostrophe and no double quote. Characters that cannot be shown
are written by their code points.
-/

namespace Gemtext.Text

/-- A character inside a quoted text that ends with `mark`. -/
def quotedChar (mark c : Char) : List Char :=
  let n := c.toNat
  if c == mark || c == '\\' then ['\\', c]
  else if c == '\t' then "\\t".toList
  else if c == '\n' then "\\n".toList
  else if c == '\r' then "\\r".toList
  else if isPrintable c then [c]
  else if n < 0x100 then "\\x".toList ++ hexDigits 2 n
  else if n < 0x10000 then "\\u".toList ++ hexDigits 4 n
  else "\\U".toList ++ hexDigits 8 n

def quoted (t : List Char) : List Char :=
  let mark := if t.contains '\x27' && !t.contains '\x22' then '\x22' else '\x27'
  mark :: t.flatMap (quotedChar mark) ++ [mark]

end Gemtext.Text
