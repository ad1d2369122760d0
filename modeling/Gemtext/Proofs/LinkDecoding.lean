import Mathlib.Data.List.Basic
import Gemtext.Proofs.Written

/-! # Reading link lines back

A link line is cut at its first blank: what stands before it is the destination, what stands behind
it is the label, and where nothing does, the destination is its own label. A footnote line is cut at
its first closing bracket, before which the number of the footnote stands in decimal digits.
Neither a destination nor a number holds the character at which its line is cut. A number with too
many digits has no line.
-/

namespace Gemtext

open Text

/-! ## Readers -/

/-- Reads the destination and the label of a link from its line. -/
def readLink (line : List Char) : Option (List Char × List Char) :=
  (dropPrefix? "=> ".toList line).map fun rest =>
    let uri := rest.takeWhile (· != ' ')
    let shown := (rest.dropWhile (· != ' ')).drop 1
    (uri, if shown = [] then uri else shown)

/-- Reads a number from its decimal digits, of which there is at least one. -/
def readDigits (t : List Char) : Option Nat :=
  if t ≠ [] ∧ t.all Char.isDigit = true then some (Nat.ofDigitChars 10 t 0) else none

/-- Reads a number with a sign before its digits if it is negative. -/
def readInteger : List Char → Option Int
  | '-' :: digits => (readDigits digits).map fun n => -(n : Int)
  | digits => (readDigits digits).map Int.ofNat

/-- Reads the number and the text of a footnote from its line. -/
def readFootnote (line : List Char) : Option (Int × List Char) :=
  (dropPrefix? "[^".toList line).bind fun rest =>
    (readInteger (rest.takeWhile (· != ']'))).bind fun number =>
      (dropPrefix? "]: ".toList (rest.dropWhile (· != ']'))).map fun t => (number, t)

/-! ## Cutting a line -/

/-- A text without the mark is cut off from what stands behind it, which is nothing or begins with
    the mark. -/
theorem cut_at_mark {mark : Char} {front behind : List Char} (free : mark ∉ front)
    (marked : ∀ c ∈ behind.head?, c = mark) :
    (front ++ behind).takeWhile (· != mark) = front ∧
      (front ++ behind).dropWhile (· != mark) = behind := by
  have passes : ∀ c ∈ front, (c != mark) = true := fun c member =>
    bne_iff_ne.mpr fun same => free (same ▸ member)
  rw [List.takeWhile_append_of_pos passes, List.dropWhile_append_of_pos passes]
  cases behind with
  | nil => simp
  | cons c rest => simp [marked c rfl]

/-! ## Numbers -/

theorem readDigits_toDigits (n : Nat) : readDigits (Nat.toDigits 10 n) = some n := by
  have some : Nat.toDigits 10 n ≠ [] := List.ne_nil_of_length_pos Nat.length_toDigits_pos
  have digits : (Nat.toDigits 10 n).all Char.isDigit = true :=
    List.all_eq_true.mpr fun _ member => Nat.isDigit_of_mem_toDigits (by omega) (by omega) member
  rw [readDigits, if_pos ⟨some, digits⟩, Nat.ofDigitChars_toDigits (by omega) (by omega)]

theorem readInteger_of_no_sign {t : List Char} (noSign : '-' ∉ t) :
    readInteger t = (readDigits t).map Int.ofNat := by
  unfold readInteger
  split
  · simp at noSign
  · rfl

theorem readInteger_decimal (n : Int) : readInteger (decimal n) = some n := by
  cases n with
  | ofNat n =>
      have noSign : '-' ∉ Nat.toDigits 10 n := fun member => by
        have isDigit := Nat.isDigit_of_mem_toDigits (by omega) (by omega) member
        cases isDigit
      rw [decimal, readInteger_of_no_sign noSign, readDigits_toDigits]
      rfl
  | negSucc n =>
      rw [decimal, readInteger, readDigits_toDigits]
      rfl

theorem decimal_no_bracket (n : Int) : ']' ∉ decimal n :=
  fun member => (of_mem_decimal member).elim nofun nofun

/-! ## Lines -/

theorem readLink_line {uri : List Char} (whole : ' ' ∉ uri) (t : List Char) :
    readLink ("=> ".toList ++ uri ++ LinkLine.suffix uri (some t)) =
      some (uri, if t = [] then uri else t) := by
  have opened : dropPrefix? "=> ".toList ("=> ".toList ++ uri ++ LinkLine.suffix uri (some t)) =
      some (uri ++ LinkLine.suffix uri (some t)) :=
    dropPrefix?_eq_some_iff.mpr (List.append_assoc ..)
  have marked : ∀ c ∈ (LinkLine.suffix uri (some t)).head?, c = ' ' := by
    rw [LinkLine.suffix]
    split <;> simp
  obtain ⟨before, behind⟩ := cut_at_mark whole marked
  rw [readLink, opened, Option.map_some, before, behind, LinkLine.suffix]
  by_cases bare : t = [] ∨ t = uri
  · rw [if_pos (by simpa using bare)]
    rcases bare with rfl | rfl <;> simp
  · obtain ⟨some, _⟩ := not_or.mp bare
    rw [if_neg (by simpa using bare)]
    simp [some]

theorem readFootnote_line (number : Int) (t : List Char) :
    readFootnote ("[^".toList ++ decimal number ++ "]: ".toList ++ t) = some (number, t) := by
  have opened : dropPrefix? "[^".toList ("[^".toList ++ decimal number ++ "]: ".toList ++ t) =
      some (decimal number ++ "]: ".toList ++ t) :=
    dropPrefix?_eq_some_iff.mpr (by simp)
  have closed : dropPrefix? "]: ".toList ("]: ".toList ++ t) = some t :=
    dropPrefix?_eq_some_iff.mpr rfl
  have marked : ∀ c ∈ ("]: ".toList ++ t).head?, c = ']' := by simp
  obtain ⟨before, behind⟩ := cut_at_mark (decimal_no_bracket number) marked
  rw [readFootnote, opened, Option.bind_some, List.append_assoc, before, behind,
    readInteger_decimal, closed]
  rfl

/-- From the line of a link its destination is read back, as long as no whitespace stands in it, and
    its label, which is the destination if it is empty. From the line of a footnote its number and
    its label are read back. Both are single lines. A footnote has a line exactly if its number can
    be written. -/
theorem link_lines_read_back {inText : Bool} {n : Node} {t : List Char}
    (labelled : label inText n = .ok t) :
    (∀ (node : Option Node) (uri : List Char), (∀ c ∈ uri, isWhite c = false) →
      ∃ line, LinkLine.render ⟨node, some uri, some t⟩ = .ok line ∧
        (∀ c ∈ line, isBreak c = false) ∧
        readLink line = some (uri, if t = [] then uri else t)) ∧
    ∀ number,
      (IsWritable number → ∃ line, footnoteLine number t = .ok line ∧
        (∀ c ∈ line, isBreak c = false) ∧ readFootnote line = some (number, t)) ∧
      (¬ IsWritable number → footnoteLine number t = .error .longNumber) := by
  have oneLine := label_no_break labelled
  constructor
  · intro node uri visible
    have blank : ' ' ∉ uri := fun member => nomatch visible ' ' member
    have unbroken : ∀ c ∈ uri, isBreak c = false := by
      intro c member
      rw [← Bool.not_eq_true]
      exact fun breaks => Bool.noConfusion
        ((visible c member).symm.trans (isWhite_of_isBreak breaks))
    have suffix : ∀ c ∈ LinkLine.suffix uri (some t), isBreak c = false := by
      rw [LinkLine.suffix]
      split
      · simp
      · exact List.forall_mem_cons.mpr ⟨rfl, oneLine⟩
    refine ⟨_, rfl, ?_, readLink_line blank t⟩
    exact List.forall_mem_append.mpr
      ⟨List.forall_mem_append.mpr ⟨by simp [isBreak], unbroken⟩, suffix⟩
  · intro number
    refine ⟨fun short => ?_, fun long => footnoteLine_eq_error.mpr ⟨long, rfl⟩⟩
    refine ⟨_, footnoteLine_eq_ok.mpr ⟨short, rfl⟩, ?_, readFootnote_line number t⟩
    have mark : ∀ c ∈ "[^".toList ++ decimal number, isBreak c = false :=
      List.forall_mem_append.mpr ⟨by simp [isBreak], decimal_no_break number⟩
    exact List.forall_mem_append.mpr
      ⟨List.forall_mem_append.mpr ⟨mark, by simp [isBreak]⟩, oneLine⟩

/-- A label that is trimmed and was joined from two lines, and a negative number. -/
theorem link_lines_read_back_words :
    let words : Node := .element .paragraph {} [.text " a\r\n] b ".toList]
    label false words = .ok "a ] b".toList ∧
      (∃ line, LinkLine.render ⟨none, some "/x".toList, some "a ] b".toList⟩ = .ok line ∧
        (∀ c ∈ line, isBreak c = false) ∧
        readLink line = some ("/x".toList, "a ] b".toList)) ∧
      footnoteLine (-12) "a ] b".toList = .ok "[^-12]: a ] b".toList ∧
      readFootnote "[^-12]: a ] b".toList = some (-12, "a ] b".toList) := by
  intro words
  have labelled : label false words = .ok "a ] b".toList := by decide +kernel
  have both := link_lines_read_back labelled
  have line : footnoteLine (-12) "a ] b".toList = .ok "[^-12]: a ] b".toList := by decide
  obtain ⟨_, same, _, reads⟩ := (both.2 (-12)).1 (by decide)
  obtain rfl := Except.ok.inj (line.symm.trans same)
  exact ⟨labelled, both.1 none "/x".toList (by simp [isWhite]), line, reads⟩

/-- The first number that is too long has no line, whatever the label. -/
theorem long_footnote_has_no_line :
    label false (.text ['x']) = .ok ['x'] ∧
      footnoteLine firstUnwritable ['x'] = .error .longNumber :=
  ⟨by decide, footnoteLine_eq_error.mpr ⟨not_isWritable_first, rfl⟩⟩

end Gemtext
