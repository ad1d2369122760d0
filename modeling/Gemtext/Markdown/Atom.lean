import Gemtext.Markdown.Autolink
import Gemtext.Markdown.LinkTarget
import Gemtext.Markdown.Place
import Gemtext.Markdown.RawHtml

/-! # Atoms of inline text

The constructs of inline text that hold no others: runs of plain text, line ends, escapes,
code, links in angle brackets, raw HTML and character references.
-/

namespace Gemtext.Markdown

open Text

inductive Atom where
  | plain (t : List Char)
  /-- The end of a line. It is a hard break after two spaces. -/
  | lineEnd
  | hardBreak
  /-- The text of an escape or a reference. -/
  | special (t : List Char)
  | code (t : List Char)
  | link (href shown : List Char)
  | html (t : List Char)
  deriving DecidableEq, Repr

/-- A character at which plain text is interrupted. -/
def interruptsText (c : Char) : Bool :=
  "\n!#$%&*+-:<=>@[\\]^_\x7b\x7d~".toList.contains c || c == '\x60'

/-- The number of characters up to the end of the first run of backticks that is `ticks`
long. `run` backticks stand right before the text. -/
def throughTicks? (ticks run : Nat) : List Char → Option Nat
  | [] => if run = ticks then some 0 else none
  | c :: rest =>
    if c == '\x60' then (throughTicks? ticks (run + 1) rest).map (· + 1)
    else if run = ticks then some 0
    else (throughTicks? ticks 0 rest).map (· + 1)

/-- Code as it counts: line ends are spaces, and one space on either side goes unless all
is blank. -/
def codeText (t : List Char) : List Char :=
  let t := t.map fun c => if c == '\n' then ' ' else c
  if t.head? = some ' ' ∧ t.getLast? = some ' ' ∧ !isBlank t then t.tail.dropLast else t

/-- What begins with backticks, so many of them: code, or the backticks as text. -/
def ticksAtom (ticks : Nat) (behind : List Char) : Atom × Nat :=
  match throughTicks? ticks 0 behind with
  | some n => (.code (codeText (behind.take (n - ticks))), ticks + n)
  | none => (.plain (List.replicate ticks '\x60'), ticks)

def bracketAtom? (p : Place) : Option (Atom × Nat) :=
  match Autolink.read? p.inside with
  | some (href, shown, n) => some (.link href shown, n)
  | none =>
    if p.inside.length < 3 then none
    else
      (RawHtml.piece? p.rest).map fun behind =>
        let n := p.rest.length - behind.length
        (.html (p.rest.take n), n)

/-- The atom at a place, and the number of its characters. -/
def atom? (p : Place) : Option (Atom × Nat) :=
  match p.inside with
  | [] => none
  | '\n' :: t => some (.lineEnd, 1 + (t.takeWhile isSpace).length)
  | '\\' :: '\n' :: t => some (.hardBreak, 2 + (t.takeWhile isSpace).length)
  | '\\' :: c :: _ => some (.special (if isMark c then [c] else ['\\', c]), 2)
  | '<' :: _ => bracketAtom? p
  | '&' :: _ :: _ =>
    (inlineReference? (p.rest.drop 1)).map fun (characters, behind) =>
      (.special characters, p.rest.length - behind.length)
  | c :: _ =>
    if c == '\x60' then
      let ticks := (p.inside.takeWhile (· == '\x60')).length
      some (ticksAtom ticks (p.rest.drop ticks))
    else
      match p.inside.takeWhile (!interruptsText ·) with
      | [] => none
      | t => some (.plain t, t.length)

end Gemtext.Markdown
