/-! # Blank text

Texts are lists of characters throughout the library. This module fixes what
counts as whitespace and the operations that only look at it: the test for blank
text, trimming, and splitting into words.

Whitespace here is wider than the space, tab and line ends of ASCII: it also holds
the four information separators, the next-line control, the no-break space and the
separators of Unicode. The zero-width space and the byte order mark are not in it.
-/

namespace Gemtext.Text

/-- Whitespace, in the wide sense of this library. -/
def isWhite (c : Char) : Bool :=
  let n := c.toNat
  (0x09 ≤ n && n ≤ 0x0D) || (0x1C ≤ n && n ≤ 0x20) || n == 0x85 || n == 0xA0 || n == 0x1680 ||
    (0x2000 ≤ n && n ≤ 0x200A) || n == 0x2028 || n == 0x2029 || n == 0x202F || n == 0x205F ||
    n == 0x3000

/-- A text is blank when it holds nothing but whitespace. -/
def isBlank (t : List Char) : Bool := t.all isWhite

/-- Drops characters that satisfy `p` from the end of a text. -/
def dropEndWhile (p : Char → Bool) (t : List Char) : List Char :=
  (t.reverse.dropWhile p).reverse

def trim (t : List Char) : List Char := dropEndWhile isWhite (t.dropWhile isWhite)

/-- The words of a text: `word` collects the open one, backwards. -/
def wordsFrom (word : List Char) : List Char → List (List Char)
  | [] => if word.isEmpty then [] else [word.reverse]
  | c :: rest =>
    if isWhite c then
      if word.isEmpty then wordsFrom [] rest else word.reverse :: wordsFrom [] rest
    else wordsFrom (c :: word) rest

/-- The maximal runs of characters that are not whitespace, in order. -/
def words (t : List Char) : List (List Char) := wordsFrom [] t

/-- Every whitespace character of the core library is whitespace here. -/
theorem isWhite_of_isWhitespace {c : Char} (h : c.isWhitespace = true) : isWhite c = true := by
  simp only [Char.isWhitespace, Bool.or_eq_true, decide_eq_true_eq] at h
  rcases h with ((rfl | rfl) | rfl) | rfl <;> decide

@[simp] theorem isBlank_nil : isBlank [] = true := rfl

@[simp] theorem isBlank_cons (c : Char) (t : List Char) :
    isBlank (c :: t) = (isWhite c && isBlank t) := rfl

@[simp] theorem isBlank_append (s t : List Char) :
    isBlank (s ++ t) = (isBlank s && isBlank t) := List.all_append

/-! ## Trimming -/

theorem trim_isPrefix (t : List Char) : trim t <+: t.dropWhile isWhite := by
  have suffix := List.dropWhile_suffix isWhite (l := (t.dropWhile isWhite).reverse)
  simpa [trim, dropEndWhile] using List.reverse_prefix.mpr suffix

theorem trim_subset (t : List Char) : trim t ⊆ t :=
  fun _ member => (List.dropWhile_suffix _).subset ((trim_isPrefix t).subset member)

/-- A trimmed text does not end with a blank. -/
theorem trim_ends {t front : List Char} {c : Char} (same : trim t = front ++ [c]) :
    isWhite c = false := by
  have kept := List.head?_dropWhile_not isWhite (t.dropWhile isWhite).reverse
  have reversed : (t.dropWhile isWhite).reverse.dropWhile isWhite = c :: front.reverse := by
    simpa [trim, dropEndWhile] using congrArg List.reverse same
  rw [reversed] at kept
  simpa using kept

theorem mem_dropWhile {p : Char → Bool} {t : List Char} {c : Char} (member : c ∈ t)
    (kept : p c = false) : c ∈ t.dropWhile p := by
  rw [← List.takeWhile_append_dropWhile (p := p) (l := t)] at member
  rcases List.mem_append.mp member with front | behind
  · cases kept.symm.trans (List.all_eq_true.mp List.all_takeWhile c front)
  · exact behind

theorem isBlank_trim (t : List Char) : isBlank (trim t) = isBlank t := by
  rw [Bool.eq_iff_iff, isBlank, isBlank, List.all_eq_true, List.all_eq_true]
  constructor
  · intro blank c member
    refine Decidable.byContradiction fun shows => ?_
    have stays := mem_dropWhile member (Bool.not_eq_true _ ▸ shows)
    have kept : c ∈ trim t := by
      rw [trim, dropEndWhile, List.mem_reverse]
      exact mem_dropWhile (List.mem_reverse.mpr stays) (Bool.not_eq_true _ ▸ shows)
    exact shows (blank c kept)
  · exact fun blank c member => blank c (trim_subset t member)

end Gemtext.Text
