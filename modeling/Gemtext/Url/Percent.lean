import Gemtext.Text.Digits

/-! # Percent escapes

An address is written in ASCII. The bytes of all other characters, and of those that have
no place in an address, stand behind percent signs. Escapes that are already there stay as
they are. For display the escapes are read back, all but those of characters that would
change the meaning of the address.
-/

namespace Gemtext.Url

open Text

/-- A character that stands for itself in an address. -/
def isPlain (c : Char) : Bool := c.isAlphanum || ";/?:@&=+$,-_.!~*'()#".toList.contains c

def escape (byte : Nat) : List Char := ['%', hexCapital (byte / 16), hexCapital (byte % 16)]

def bytes (c : Char) : List Nat := (String.utf8EncodeChar c).map UInt8.toNat

def escapeChar (c : Char) : List Char :=
  if isPlain c then [c] else (bytes c).flatMap escape

/-- Escapes what has to be escaped in an address. -/
def encode : List Char → List Char
  | [] => []
  | '%' :: a :: b :: rest =>
    if isHexDigit a && isHexDigit b then '%' :: a :: b :: encode rest
    else escape 0x25 ++ encode (a :: b :: rest)
  | c :: rest => escapeChar c ++ encode rest

/-- A character whose escape stays in an address that is displayed. -/
def staysEscaped (c : Char) : Bool := ";/?:@&=+$,#%".toList.contains c

/-- How many bytes follow a byte that begins a character in UTF-8. -/
def followers (byte : Nat) : Nat :=
  if 0xC0 ≤ byte && byte < 0xE0 then 1
  else if 0xE0 ≤ byte && byte < 0xF0 then 2
  else if 0xF0 ≤ byte && byte < 0xF8 then 3
  else 0

/-- The code point that a first byte and the bytes behind it write. -/
def codePoint (first : Nat) (more : List Nat) : Nat :=
  more.foldl (fun n byte => 64 * n + byte % 64) (first % Nat.pow 2 (6 - more.length))

/-- The least code point that needs this many bytes behind the first. -/
def leastCodePoint (count : Nat) : Nat := [0, 0x80, 0x800, 0x10000].getD count 0

/-- A character of several bytes. Bytes that write no character, or one that is shorter to
write, each become the replacement character. -/
def wideChar (first : Nat) (more : List Nat) : List Char :=
  let n := codePoint first more
  if leastCodePoint more.length ≤ n && n ≤ 0x10FFFF && !(0xD800 ≤ n && n ≤ 0xDFFF) then
    [Char.ofNat n]
  else List.replicate (more.length + 1) '\uFFFD'

/-- The text that a run of escaped bytes displays. -/
def display : List Nat → List Char
  | [] => []
  | first :: rest =>
    let count := followers first
    let more := rest.take count
    if first < 0x80 then
      let c := Char.ofNat first
      (if staysEscaped c then escape first else [c]) ++ display rest
    else if count = 0 || more.length < count || !more.all (fun byte => byte / 64 == 2) then
      '\uFFFD' :: display rest
    else wideChar first more ++ display (rest.drop count)
termination_by bs => bs.length
decreasing_by all_goals simp only [List.length_cons, List.length_drop]; omega

/-- The address as it is displayed. The escaped bytes right before the head of the text are
collected in `run`, backwards. -/
def decodeFrom (run : List Nat) : List Char → List Char
  | [] => display run.reverse
  | '%' :: a :: b :: rest =>
    if isHexDigit a && isHexDigit b then decodeFrom (numberOfDigits 16 [a, b] :: run) rest
    else display run.reverse ++ '%' :: decodeFrom [] (a :: b :: rest)
  | c :: rest => display run.reverse ++ c :: decodeFrom [] rest

/-- Reads the escapes of an address back for display. -/
def decode (t : List Char) : List Char := decodeFrom [] t

/-- A text of plain characters is its own written form. -/
theorem encode_eq_self {t : List Char} (h : ∀ c ∈ t, isPlain c = true) : encode t = t := by
  induction t with
  | nil => rfl
  | cons c t ih =>
    have hc : isPlain c = true := h c List.mem_cons_self
    have ht : encode t = t := ih fun d hd => h d (List.mem_cons_of_mem c hd)
    have hne : c ≠ '%' := by rintro rfl; exact absurd hc (by decide)
    rw [encode, escapeChar, if_pos hc, ht]
    · rfl
    · rintro a b rest rfl
      exact absurd rfl hne

end Gemtext.Url
