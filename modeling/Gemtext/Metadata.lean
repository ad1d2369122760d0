import Gemtext.Error

/-! # Metadata

The title and the publication date of a document, and the header that they make.
-/

namespace Gemtext

/-- A date with the time of day, to the minute. -/
structure Date where
  year : Nat
  month : Nat
  day : Nat
  hour : Nat := 0
  minute : Nat := 0
  deriving DecidableEq, Repr

/-- A number in at least two decimal digits. -/
def twoDigits (n : Nat) : List Char :=
  if n < 10 then '0' :: decimal n else decimal n

/-- A date as the header shows it. The year is not padded. -/
def Date.render (d : Date) : List Char :=
  decimal d.year ++ ['-'] ++ twoDigits d.month ++ ['-'] ++ twoDigits d.day ++ [' '] ++
    twoDigits d.hour ++ [':'] ++ twoDigits d.minute

/-- What is known about a document besides its content. -/
structure Metadata where
  title : List Char := []
  date : Option Date := none
  deriving DecidableEq, Repr

/-- The header: the title as a heading and the date, each followed by an empty line. -/
def Metadata.header (m : Metadata) : List Char :=
  "# ".toList ++ m.title ++ "\n\n".toList ++
    match m.date with
    | none => []
    | some date => date.render ++ "\n\n".toList

end Gemtext
