import Gemtext.Document.Node
import Gemtext.Html.Markup
import Gemtext.Text.Quoted

/-! # Errors

Why a text cannot be read or a document cannot be rendered, and the one place where each
cause is put into words. Words and documents hold numbers, and a number is only written if
it does not have too many digits.
-/

namespace Gemtext

open Text

inductive Malformation where
  /-- A footnote reference points to no footnote definition. -/
  | undefinedFootnote (number : Option Int)
  /-- A link has no destination at all, not even an empty one. -/
  | unresolvedLink
  /-- Some node lies more levels below the document than is allowed. -/
  | tooDeep (limit : Int)
  /-- A list has a child that is no list item. -/
  | strayListChild
  /-- The level of a heading is below one. -/
  | headingLevel (level : Int)
  /-- A list item stands outside of a list. -/
  | strayListItem
  deriving DecidableEq, Repr

inductive Error where
  /-- The document tree is malformed, at the node if it is known. -/
  | malformed (cause : Malformation) (node : Option Node)
  /-- Something that is needed by this name is missing. -/
  | missing (name : List Char)
  /-- A fragment of raw HTML is refused. -/
  | rejected (cause : Html.Rejection)
  /-- The tag of a heading does not end in a number. -/
  | headingTag (tag : List Char)
  /-- The constructs of a text do not nest. -/
  | unbalanced
  /-- A number has too many digits to be written. -/
  | longNumber
  deriving DecidableEq, Repr

/-! ## Numbers -/

def decimal : (n : Int) → List Char
  | .ofNat n => Nat.toDigits 10 n
  | .negSucc n => '-' :: Nat.toDigits 10 (n + 1)

/-- A number has no more digits than are written. -/
def IsWritable (n : Int) : Prop := (Nat.toDigits 10 n.natAbs).length ≤ digitLimit

instance (n : Int) : Decidable (IsWritable n) := inferInstanceAs (Decidable (_ ≤ _))

/-- A number that may have any number of digits. -/
def writeNumber (n : Int) : Except Error (List Char) :=
  if IsWritable n then .ok (decimal n) else .error .longNumber

/-- The first number that has too many digits. -/
def firstUnwritable : Nat := Nat.pow 10 digitLimit

theorem isWritable_iff {n : Int} : IsWritable n ↔ n.natAbs < firstUnwritable := by
  unfold IsWritable firstUnwritable
  -- For any limit, so that the power is not computed.
  generalize size : digitLimit = k
  have some : 0 < k := by
    rw [← size]
    decide
  exact Nat.length_toDigits_le_iff (by decide) some

theorem not_isWritable_first : ¬ IsWritable firstUnwritable := by
  rw [isWritable_iff, Int.natAbs_natCast]
  exact Nat.lt_irrefl _

section Written

variable {α : Type} {n : Int} {f : List Char → α}

/-- What is made of a number is made of its digits. -/
theorem writeNumber_map_eq_ok {a : α} :
    (writeNumber n).map f = .ok a ↔ IsWritable n ∧ a = f (decimal n) := by
  unfold writeNumber
  split <;> simp_all [Except.map, eq_comm]

theorem writeNumber_map_eq_error {e : Error} :
    (writeNumber n).map f = .error e ↔ ¬ IsWritable n ∧ e = .longNumber := by
  unfold writeNumber
  split <;> simp_all [Except.map, eq_comm]

end Written

theorem of_mem_decimal {number : Int} {c : Char} (member : c ∈ decimal number) :
    c.isDigit = true ∨ c = '-' := by
  have digit {n : Nat} (inside : c ∈ Nat.toDigits 10 n) : c.isDigit = true :=
    Nat.isDigit_of_mem_toDigits (by omega) (by omega) inside
  cases number with
  | ofNat n => exact .inl (digit member)
  | negSucc n =>
    rcases List.mem_cons.mp member with sign | behind
    · exact .inr sign
    · exact .inl (digit behind)

/-! ## Words -/

/-- What is wrong with a tree. There are no words for it if they hold a number that cannot
be written. -/
def Malformation.message : Malformation → Option (List Char)
  | undefinedFootnote none => some "Footnote [^None] has no definition".toList
  | undefinedFootnote (some number) =>
    (writeNumber number).toOption.map fun t =>
      "Footnote [^".toList ++ t ++ "] has no definition".toList
  | unresolvedLink => some "Link URI not resolved!".toList
  | tooDeep limit =>
    (writeNumber limit).toOption.map fun t =>
      "Document is nested deeper than ".toList ++ t ++ " levels".toList
  | strayListChild => some "Lists can only contain list items".toList
  | headingLevel level =>
    (writeNumber level).toOption.map fun t => "Invalid heading level: ".toList ++ t
  | strayListItem => some "List item found outside of a list".toList

/-- What is said about a section before the reason why it is refused. -/
def rejectionPreface : List Char :=
  ("The markup you provided was rejected by the parser. Trying a different parser or a " ++
    "different encoding may help.\n\nOriginal exception(s) from parser:\n AssertionError: ").toList

def longNumberMessage : List Char :=
  "a number has more than ".toList ++ decimal digitLimit ++ " digits".toList

def rejectionMessage : Html.Rejection → List Char
  | .unknownKeyword keyword =>
    rejectionPreface ++
      "unknown status keyword ".toList ++ quoted keyword ++ " in marked section".toList
  | .expectedKeyword found => rejectionPreface ++ "expected name token at ".toList ++ quoted found
  | .longReference => longNumberMessage

/-- The text of an error. A malformed tree is followed by the name of the node. Where there
are no words for what is wrong with it, only the number that is too long is reported. -/
def Error.message : Error → Option (List Char)
  | malformed cause none => cause.message
  | malformed cause (some node) =>
    cause.message.map fun t => t ++ " (in <".toList ++ node.name.toList ++ "> node)".toList
  | missing name => some (quoted name)
  | rejected cause => some (rejectionMessage cause)
  | headingTag tag => some ("no heading level in ".toList ++ quoted tag)
  | unbalanced => some "constructs do not nest".toList
  | longNumber => some longNumberMessage

end Gemtext
