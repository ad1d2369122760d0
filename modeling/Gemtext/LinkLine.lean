import Gemtext.Compose

/-! # Link lines

A link line shows a destination and, when it differs, a label. A footnote line shows the
number of a footnote, if that can be written, and its text. Both are single lines as long as
the label is.
-/

namespace Gemtext

open Text

/-- A link with its destination, if it has one, and its label, if it has one that is not
empty. The node is where an error is reported. -/
structure LinkLine where
  node : Option Node := none
  uri : Option (List Char) := none
  label : Option (List Char) := none

namespace LinkLine

/-- What a link line says behind its destination: nothing if the label is missing, empty
or the destination itself. -/
def suffix (uri : List Char) (label : Option (List Char)) : List Char :=
  match label with
  | none => []
  | some t => if t.isEmpty || t == uri then [] else ' ' :: t

/-- The line. Only a link without a destination has none. -/
def render (l : LinkLine) : Except Error (List Char) :=
  match l.uri with
  | none => .error (.malformed .unresolvedLink l.node)
  | some uri => .ok ("=> ".toList ++ uri ++ suffix uri l.label)

end LinkLine

def footnoteLine (number : Int) (text : List Char) : Except Error (List Char) :=
  (writeNumber number).map fun t => "[^".toList ++ t ++ "]: ".toList ++ text

theorem footnoteLine_eq_ok {number : Int} {text line : List Char} :
    footnoteLine number text = .ok line ↔
      IsWritable number ∧ line = "[^".toList ++ decimal number ++ "]: ".toList ++ text :=
  writeNumber_map_eq_ok

theorem footnoteLine_eq_error {number : Int} {text : List Char} {e : Error} :
    footnoteLine number text = .error e ↔ ¬ IsWritable number ∧ e = .longNumber :=
  writeNumber_map_eq_error

end Gemtext
