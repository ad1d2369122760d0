/-! # Places in a text

Constructs are read from the head of what follows a place. A label or the content of a
link is read as a part of its text: what lies inside the part and what lies beyond it are
kept apart, as some constructs look beyond and others do not.
-/

namespace Gemtext.Markdown

structure Place where
  /-- How many characters of the text stand before. -/
  index : Nat
  /-- The character before, a space at the very beginning. -/
  last : Char
  /-- What follows, up to the end of the part. -/
  inside : List Char
  /-- What follows the part. -/
  beyond : List Char

namespace Place

def start (t : List Char) : Place := ⟨0, ' ', t, []⟩

def rest (p : Place) : List Char := p.inside ++ p.beyond

def forward (n : Nat) (p : Place) : Place where
  index := p.index + n
  last := ((p.inside.take n).getLast?).getD p.last
  inside := p.inside.drop n
  beyond := p.beyond.drop (n - p.inside.length)

/-- The next `n` characters as a part of their own. -/
def part (n : Nat) (p : Place) : Place :=
  { p with inside := p.inside.take n, beyond := p.inside.drop n ++ p.beyond }

/-- The character that follows, a space at the end of the part. -/
def next (p : Place) : Char := p.inside.head?.getD ' '

@[simp] theorem rest_start (t : List Char) : (start t).rest = t := List.append_nil t

/-- Going on drops what is passed, inside and beyond. -/
theorem rest_forward (n : Nat) (p : Place) : (p.forward n).rest = p.rest.drop n := by
  simp [forward, rest, List.drop_append]

/-- A part lies in the same text. -/
theorem rest_part (n : Nat) (p : Place) : (p.part n).rest = p.rest := by
  simp [part, rest, ← List.append_assoc, List.take_append_drop]

end Place

end Gemtext.Markdown
