/-! # Digits to a base

How numbers are written with the digits `0` to `9` and `a` to `f`, and how they are read
back. Reading takes both cases; writing has one function for each. There is a limit to the
digits of a decimal number.
-/

namespace Gemtext.Text

/-- The most digits of a decimal number that is written out or read. -/
def digitLimit : Nat := 4300

def hexDigit (n : Nat) : Char :=
  if n < 10 then Char.ofNat (0x30 + n) else Char.ofNat (0x61 + n - 10)

def hexCapital (n : Nat) : Char := (hexDigit n).toUpper

/-- A number in hexadecimal, with `width` digits. -/
def hexDigits : (width n : Nat) → List Char
  | 0, _ => []
  | width + 1, n => hexDigits width (n / 16) ++ [hexDigit (n % 16)]

/-- The value of a hexadecimal digit in either case. -/
def hexValue (c : Char) : Nat :=
  if c.isDigit then c.toNat - 0x30 else c.toLower.toNat - 0x61 + 10

def isHexDigit (c : Char) : Bool :=
  c.isDigit || ('a' ≤ c && c ≤ 'f') || ('A' ≤ c && c ≤ 'F')

def numberOfDigits (base : Nat) (digits : List Char) : Nat :=
  digits.foldl (fun n c => base * n + hexValue c) 0

/-- A digit that is written is read back, in both cases. -/
theorem hexValue_hexDigit {n : Nat} (h : n < 16) :
    hexValue (hexDigit n) = n ∧ hexValue (hexCapital n) = n := by
  have all : ∀ m ∈ List.range 16, hexValue (hexDigit m) = m ∧ hexValue (hexCapital m) = m := by
    decide
  exact all n (List.mem_range.2 h)

theorem length_hexDigits (width n : Nat) : (hexDigits width n).length = width := by
  induction width generalizing n with
  | zero => rfl
  | succ width ih => rw [hexDigits, List.length_append, ih]; rfl

end Gemtext.Text
