/-! # Host names in ASCII

A label of a host name that holds characters past ASCII is written as its ASCII characters,
a hyphen, and a row of digits to the base 36. The digits give, for the other characters in
the order of their code points, how far each lies behind the one before: a difference in
code points and a difference in places, as a single number. How many digits a number takes
depends on the numbers before it.

Reading ends because every number takes at least one digit; the last remainder of writing
is smaller than what was divided.
-/

namespace Gemtext.Url.Punycode

def digitChar (d : Nat) : Char :=
  if d < 26 then Char.ofNat (0x61 + d) else Char.ofNat (0x30 + d - 26)

/-- The value of a digit to the base 36, in either case. -/
def digitValue? (c : Char) : Option Nat :=
  if 'a' ≤ c && c ≤ 'z' then some (c.toNat - 0x61)
  else if 'A' ≤ c && c ≤ 'Z' then some (c.toNat - 0x41)
  else if c.isDigit then some (c.toNat - 0x30 + 26)
  else none

/-- A digit below this value is the last of its number. `place` counts the digits from 1. -/
def threshold (place bias : Nat) : Nat := min 26 (max 1 (36 * place - bias))

/-- Divides a difference until it is small, and counts the divisions. -/
def reduce (delta divisions : Nat) : Nat × Nat :=
  if 455 < delta then reduce (delta / 35) (divisions + 1) else (delta, divisions)
termination_by delta
decreasing_by exact Nat.div_lt_self (by omega) (by omega)

/-- The bias for the next number, after one that was the first or not, when the text has
`size` characters. -/
def adapt (delta : Nat) (first : Bool) (size : Nat) : Nat :=
  let delta := if first then delta / 700 else delta / 2
  let (delta, divisions) := reduce (delta + delta / size) 0
  36 * divisions + 36 * delta / (delta + 38)

theorem threshold_pos (place bias : Nat) : 0 < threshold place bias := by
  unfold threshold; omega

theorem threshold_le (place bias : Nat) : threshold place bias ≤ 26 := by
  unfold threshold; omega

def digitsFrom (bias place n : Nat) : List Char :=
  let t := threshold place bias
  if n < t then [digitChar n]
  else digitChar (t + (n - t) % (36 - t)) :: digitsFrom bias (place + 1) ((n - t) / (36 - t))
termination_by n
decreasing_by
  have := threshold_pos place bias
  have := threshold_le place bias
  calc (n - threshold place bias) / (36 - threshold place bias)
      ≤ n - threshold place bias := Nat.div_le_self _ _
    _ < n := by omega

structure Written where
  digits : List Char := []
  delta : Nat := 0
  bias : Nat := 72
  /-- How many characters of the label are written. -/
  count : Nat

/-- Passes a character of the label while the characters of code point `n` are written. -/
def Written.pass (ascii n : Nat) (w : Written) (c : Char) : Written :=
  if c.toNat < n then { w with delta := w.delta + 1 }
  else if c.toNat = n then
    { digits := w.digits ++ digitsFrom w.bias 1 w.delta
      delta := 0
      bias := adapt w.delta (w.count == ascii) (w.count + 1)
      count := w.count + 1 }
  else w

/-- Writes the characters of the code points listed, in increasing order. `next` is the
least code point that is left. -/
def Written.through (label : List Char) (ascii : Nat) :
    (next : Nat) → Written → List Nat → Written
  | _, w, [] => w
  | next, w, n :: rest =>
    let w := label.foldl (Written.pass ascii n)
      { w with delta := w.delta + (n - next) * (w.count + 1) }
    Written.through label ascii (n + 1) { w with delta := w.delta + 1 } rest

/-- A label in ASCII, without the mark that says so. -/
def encode (label : List Char) : List Char :=
  let ascii := label.filter fun c => c.toNat < 0x80
  let others := ((label.filter fun c => 0x80 ≤ c.toNat).map Char.toNat).mergeSort.eraseDups
  let w := Written.through label ascii.length 0x80 { count := ascii.length } others
  if ascii.isEmpty then w.digits else ascii ++ '-' :: w.digits

/-- Reads a number: its digits from `place` on, each `weight` times its value. -/
def number? (bias : Nat) : (place weight n : Nat) → List Char → Option (Nat × List Char)
  | _, _, _, [] => none
  | place, weight, n, c :: rest =>
    match digitValue? c with
    | none => none
    | some d =>
      let t := threshold place bias
      if d < t then some (n + d * weight, rest)
      else number? bias (place + 1) (weight * (36 - t)) (n + d * weight) rest

theorem number?_length {bias place weight n m : Nat} {digits rest : List Char}
    (h : number? bias place weight n digits = some (m, rest)) : rest.length < digits.length := by
  induction digits generalizing place weight n with
  | nil => cases h
  | cons c digits ih =>
    rw [number?] at h
    split at h
    · cases h
    · dsimp only at h
      split at h
      · cases h; exact Nat.lt_succ_self _
      · exact Nat.lt_succ_of_lt (ih h)

/-- Inserts the characters that digits tell of into a text. The next one lies behind place
`place` of code point `n`. -/
def insertAll (n place bias : Nat) (first : Bool) (text digits : List Char) :
    Option (List Char) :=
  if digits.isEmpty then some text
  else
    match _h : number? bias 1 1 0 digits with
    | none => none
    | some (delta, rest) =>
      let size := text.length + 1
      let place := place + delta
      let n := n + place / size
      let place := place % size
      if 0x10FFFF < n then none
      else
        insertAll n (place + 1) (adapt delta first size) false
          (text.take place ++ Char.ofNat n :: text.drop place) rest
termination_by digits.length
decreasing_by exact number?_length _h

/-- Reads a label in ASCII, without the mark that says so. Its digits stand behind the last
hyphen. -/
def decode? (label : List Char) : Option (List Char) :=
  if label.all fun c => c.toNat < 0x80 then
    let digits := (label.reverse.takeWhile (· != '-')).reverse
    insertAll 0x80 0 72 true (label.take (label.length - digits.length - 1)) digits
  else none

end Gemtext.Url.Punycode
