import Gemtext.Markdown.Escape
import Gemtext.Markdown.Tree
import Gemtext.Text.Punctuation

/-! # Emphasis

Asterisks, low lines and tildes mark emphasis in pairs. What stands beside a run of marks
decides whether they may open or close emphasis. Marks are paired from the left: a closing
mark takes the nearest opening mark before it that fits, and marks between the two are
text. Two pairs of the same mark, one right inside the other, are strong emphasis.

Open marks wait on a stack of frames, each with what stands before it on its level. A mark
that is never paired is text.
-/

namespace Gemtext.Markdown

open Text

structure Mark where
  char : Char
  /-- How many characters the mark has. -/
  width : Nat
  /-- Where the run begins that the mark belongs to. -/
  run : Nat
  /-- The length of the run, for the rule that keeps apart runs of unlike lengths. -/
  size : Nat
  opens : Bool
  closes : Bool
  deriving DecidableEq, Repr

inductive Piece where
  | text (t : List Char)
  /-- The text of an escape or a reference. -/
  | special (t : List Char)
  /-- A tilde that is left over in a run of pairs of tildes. -/
  | tilde
  | mark (m : Mark)
  /-- What a single pair of marks encloses. -/
  | emphasis (mark : Char) (children : List Tree)
  | tree (n : Tree)
  deriving Repr

/-- A character that counts as a blank beside a mark. -/
def isFlankingBlank (c : Char) : Bool :=
  let n := c.toNat
  (0x09 ≤ n && n ≤ 0x0D) || n == 0x20 || n == 0xA0 || n == 0x1680 ||
    (0x2000 ≤ n && n ≤ 0x200A) || n == 0x202F || n == 0x205F || n == 0x3000

/-- A character that counts as punctuation beside a mark. -/
def isFlankingMark (c : Char) : Bool := isMark c || isPunctuation c

/-- Whether a run of marks between two characters leans on what follows it. -/
def leansForward (before after : Char) : Bool :=
  !(isFlankingBlank after ||
    (isFlankingMark after && !(isFlankingBlank before || isFlankingMark before)))

/-- Whether marks between two characters may open emphasis. Those that split words may do so
within a word. -/
def mayOpen (splitsWords : Bool) (before after : Char) : Bool :=
  leansForward before after &&
    (splitsWords || !leansForward after before || isFlankingMark before)

/-- The marks of a run of some length, by where it starts and the characters around it. -/
def marksOfRun (char before after : Char) (start length : Nat) : List Piece :=
  let opens := mayOpen (char != '_') before after
  let closes := mayOpen (char != '_') after before
  if char == '~' then
    (if length % 2 = 1 then [.tilde] else []) ++
      List.replicate (length / 2) (.mark ⟨char, 2, start, 0, opens, closes⟩)
  else List.replicate length (.mark ⟨char, 1, start, length, opens, closes⟩)

/-- Whether two marks are a pair. Where one of them may both open and close, the lengths of
the two runs may not add up to a multiple of three, unless both are multiples of three. -/
def Mark.pairs (closer opener : Mark) : Bool :=
  opener.char == closer.char && opener.run != closer.run &&
    !((opener.closes || closer.opens) && (opener.size + closer.size) % 3 == 0 &&
      (opener.size % 3 != 0 || closer.size % 3 != 0))

def Piece.settle (joined : Bool) : Piece → Piece
  | .mark m => .text (List.replicate m.width m.char)
  | .tilde => .text ['~']
  | .special t => if joined then .text t else .special t
  | p => p

def joinPieces : List Piece → List Piece
  | [] => []
  | .text s :: rest =>
    match joinPieces rest with
    | .text t :: more => .text (s ++ t) :: more
    | more => .text s :: more
  | p :: rest => p :: joinPieces rest

def Piece.toTree : Piece → Tree
  | .text t | .special t => .node .text t []
  | .mark m => .node .text (List.replicate m.width m.char) []
  | .tilde => .node .text ['~'] []
  | .emphasis _ children => .node .emphasis [] children
  | .tree n => n

/-- The constructs of pieces whose marks are paired. Neighbouring texts are one; those of
escapes are `joined` to them or stand apart. -/
def treesOfPieces (joined : Bool) (ps : List Piece) : List Tree :=
  (joinPieces (ps.map (·.settle joined))).map Piece.toTree

/-- What a pair of marks makes of the pieces between them. A left-over tilde before the
closing mark moves behind it. -/
def enclose (joined : Bool) (mark : Char) (inner : List Piece) : List Piece :=
  if mark == '~' then
    match inner.getLast? with
    | some .tilde =>
      [.tree (.node .strikethrough [] (treesOfPieces joined inner.dropLast)), .tilde]
    | _ => [.tree (.node .strikethrough [] (treesOfPieces joined inner))]
  else
    match inner with
    | [.emphasis m children] =>
      if m == mark then [.text [], .tree (.node .strong [] children), .text []]
      else [.emphasis mark (treesOfPieces joined inner)]
    | _ => [.emphasis mark (treesOfPieces joined inner)]

/-- An opening mark that waits for its pair, and what stands before it, backwards. -/
structure Frame where
  mark : Mark
  before : List Piece

/-- What is kept while marks are paired: the frames that wait, the last one first, and the
pieces since, backwards. -/
structure Pairing where
  frames : List Frame := []
  pieces : List Piece := []

/-- The pieces since the beginning of some frames whose marks find no pair, backwards. -/
def unpaired (pieces : List Piece) (frames : List Frame) : List Piece :=
  pieces ++ frames.flatMap fun f => .mark f.mark :: f.before

def Pairing.add (s : Pairing) (p : Piece) : Pairing := { s with pieces := p :: s.pieces }

def Pairing.push (s : Pairing) (m : Mark) : Pairing :=
  if m.opens then ⟨⟨m, s.pieces⟩ :: s.frames, []⟩ else s.add (.mark m)

def Pairing.pass (joined : Bool) (s : Pairing) : Piece → Pairing
  | .mark m =>
    if m.closes then
      match s.frames.dropWhile (!m.pairs ·.mark) with
      | [] => s.push m
      | opener :: frames =>
        let inner := unpaired s.pieces (s.frames.takeWhile (!m.pairs ·.mark))
        ⟨frames, (enclose joined m.char inner.reverse).reverse ++ opener.before⟩
    else s.push m
  | p => s.add p

def pairMarks (joined : Bool) (ps : List Piece) : List Tree :=
  let s := ps.foldl (Pairing.pass joined) {}
  treesOfPieces joined (unpaired s.pieces s.frames).reverse

end Gemtext.Markdown
