import Gemtext.Text.Digits
import Gemtext.Text.NamedCharacter

/-! # Escapes

A backslash takes the meaning from a punctuation mark of ASCII. A character reference
stands for a character, by name or by number, and always ends with a semicolon.

Where a text is read at once, such as the destination of a link, a reference that stands
for no character stays as it is written. In inline text, a number that is no character stands
for the replacement character.
-/

namespace Gemtext.Markdown

open Text

def isMark (c : Char) : Bool := '!' ≤ c && c ≤ '~' && !c.isAlphanum

/-- Whether a number may stand for a character: neither a surrogate, nor a code point that
is never used, nor a control character. -/
def isCharacterNumber (n : Nat) : Bool :=
  !((0xD800 ≤ n && n ≤ 0xDFFF) || (0xFDD0 ≤ n && n ≤ 0xFDEF) || n % 0x10000 ≥ 0xFFFE ||
    n ≤ 0x08 || n == 0x0B || (0x0E ≤ n && n ≤ 0x1F) || (0x7F ≤ n && n ≤ 0x9F) || 0x10FFFF < n)

/-- Reads a named reference behind its ampersand. -/
def namedReference? (t : List Char) : Option (List Char × List Char) :=
  match t.dropWhile Char.isAlphanum with
  | ';' :: rest =>
    (namedCharacters? (t.takeWhile Char.isAlphanum)).map fun characters => (characters, rest)
  | _ => none

/-- Reads the digits of a reference and the semicolon behind them. -/
def digits? (isDigit : Char → Bool) (most : Nat) (t : List Char) :
    Option (List Char × List Char) :=
  let digits := t.takeWhile isDigit
  match t.dropWhile isDigit with
  | ';' :: rest => if 0 < digits.length && digits.length ≤ most then some (digits, rest) else none
  | _ => none

/-- Reads a numeric reference behind `&#`, of at most so many digits: the number it writes
and the rest. -/
def numericReference? (mostDecimal mostHex : Nat) (t : List Char) : Option (Nat × List Char) :=
  match t with
  | [] => none
  | c :: rest =>
    if c == 'x' || c == 'X' then
      (digits? isHexDigit mostHex rest).map fun (digits, rest) => (numberOfDigits 16 digits, rest)
    else
      (digits? Char.isDigit mostDecimal t).map fun (digits, rest) =>
        (numberOfDigits 10 digits, rest)

/-- A reference behind its ampersand, as a text read at once has it. -/
def reference? (t : List Char) : Option (List Char × List Char) :=
  match t with
  | '#' :: t =>
    match numericReference? 8 8 t with
    | some (n, rest) => if isCharacterNumber n then some ([Char.ofNat n], rest) else none
    | none => none
  | _ => namedReference? t

/-- A reference behind its ampersand, as inline text has it. -/
def inlineReference? (t : List Char) : Option (List Char × List Char) :=
  match t with
  | '#' :: t =>
    (numericReference? 7 6 t).map fun (n, rest) =>
      ([if isCharacterNumber n then Char.ofNat n else '\uFFFD'], rest)
  | _ => namedReference? t

theorem digits?_length {isDigit : Char → Bool} {most : Nat} {t digits rest : List Char}
    (h : digits? isDigit most t = some (digits, rest)) : rest.length < t.length := by
  have whole := congrArg List.length (List.takeWhile_append_dropWhile (p := isDigit) (l := t))
  rw [List.length_append] at whole
  rw [digits?] at h
  split at h
  · next r hr =>
    split at h
    · cases h
      rw [hr, List.length_cons] at whole
      omega
    · cases h
  · cases h

theorem namedReference?_length {t characters rest : List Char}
    (h : namedReference? t = some (characters, rest)) : rest.length < t.length := by
  have whole :=
    congrArg List.length (List.takeWhile_append_dropWhile (p := Char.isAlphanum) (l := t))
  rw [List.length_append] at whole
  rw [namedReference?] at h
  split at h
  · next r hr =>
    obtain ⟨c, _, hc⟩ := Option.map_eq_some_iff.1 h
    cases hc
    rw [hr, List.length_cons] at whole
    omega
  · cases h

theorem numericReference?_length {mostDecimal mostHex n : Nat} {t rest : List Char}
    (h : numericReference? mostDecimal mostHex t = some (n, rest)) : rest.length < t.length := by
  rw [numericReference?.eq_def] at h
  split at h
  · cases h
  · split at h
    · obtain ⟨d, hd, hc⟩ := Option.map_eq_some_iff.1 h
      cases hc
      exact Nat.lt_succ_of_lt (digits?_length hd)
    · obtain ⟨d, hd, hc⟩ := Option.map_eq_some_iff.1 h
      cases hc
      exact digits?_length hd

/-- A reference takes up some of the text. -/
theorem reference?_length {t characters rest : List Char}
    (h : reference? t = some (characters, rest)) : rest.length < t.length := by
  rw [reference?.eq_def] at h
  split at h
  · split at h
    · next n r hn =>
      split at h
      · cases h
        exact Nat.lt_succ_of_lt (numericReference?_length hn)
      · cases h
    · cases h
  · exact namedReference?_length h

/-- Reads the escapes and references of a text at once. -/
def unescape : List Char → List Char
  | [] => []
  | '\\' :: c :: rest =>
    if isMark c then c :: unescape rest else '\\' :: unescape (c :: rest)
  | '&' :: rest =>
    match _h : reference? rest with
    | some (characters, behind) => characters ++ unescape behind
    | none => '&' :: unescape rest
  | c :: rest => c :: unescape rest
termination_by t => t.length
decreasing_by
  · simp only [List.length_cons]; omega
  · exact Nat.lt_succ_self _
  · exact Nat.lt_succ_of_lt (reference?_length _h)
  · exact Nat.lt_succ_self _
  · exact Nat.lt_succ_self _

end Gemtext.Markdown
