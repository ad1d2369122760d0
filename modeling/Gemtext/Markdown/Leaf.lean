import Gemtext.Markdown.Interrupt
import Gemtext.Markdown.LinkDefinition

/-! # Blocks without blocks inside

Code, fenced code, rules, link definitions, raw HTML, headings, tables and paragraphs. Each
is read from the line it begins with and the lines that follow, and says how many of them
it takes.
-/

namespace Gemtext.Markdown

open Text

/-- The events of some blocks, and how many lines they take. -/
structure Block where
  events : List Event
  height : Nat

namespace Block

def ofInline (kind : Kind) (t : List Char) (height : Nat) : Block :=
  ⟨[.opening kind, .inline (trim t), .closing], height⟩

def ofContent (kind : Kind) (content : List Char) (height : Nat) : Block :=
  ⟨[.tree (.node kind content [])], height⟩

/-- Code that is indented. Empty lines at its end do not belong to it. -/
def code? (a : Around) (l : Line) (rest : List Line) : Option Block :=
  if a.isCode l then
    let more := dropEmptyEnd (rest.takeWhile fun m => m.isEmpty || a.isCode m)
    some (ofContent .codeBlock (textOf (4 + a.indent) false (l :: more) ++ ['\n'])
      (1 + more.length))
  else none
where
  /-- Drops empty lines from the end. -/
  dropEmptyEnd (ls : List Line) : List Line := (ls.reverse.dropWhile Line.isEmpty).reverse

/-- The lines of fenced code, and whether the fence that ends it follows. -/
def fencedLines (a : Around) (f : Fence) : List Line → List Line × Bool
  | [] => ([], false)
  | l :: rest =>
    if (a.isOutside l && !l.isEmpty) || (l.isEmpty && !l.ended) then ([], false)
    else if !a.isCode l && f.isClosedBy l.content then ([], true)
    else
      let (more, closed) := fencedLines a f rest
      (l :: more, closed)

/-- Code between fences. It loses the indentation of the first fence. -/
def fence? (a : Around) (l : Line) (rest : List Line) : Option Block :=
  if a.isCode l then none
  else
    (Markdown.fence? l.content).map fun f =>
      let (inside, closed) := fencedLines a f rest
      ofContent (.fence f.info) (textOf l.indent.toNat true inside)
        (1 + inside.length + if closed then 1 else 0)

def rule? (a : Around) (l : Line) : Option Block :=
  if !a.isCode l && isRule l.content then some (ofContent .rule [] 1) else none

def linkDefinition? (a : Around) (l : Line) (rest : List Line) : Option Block :=
  if a.isCode l then none
  else
    let lines := (l :: following a .linkDefinition rest).map Line.contentEnded
    (LinkDefinition.read? lines).map fun (label, target, height) =>
      ⟨[.linkDefinition label target], height⟩

def htmlLines (a : Around) (ending : HtmlBlock.Ending) : List Line → List Line
  | [] => []
  | l :: rest =>
    if a.isOutside l then []
    else if ending.isReached l.content then if l.isEmpty then [] else [l]
    else l :: htmlLines a ending rest

def html? (a : Around) (l : Line) (rest : List Line) : Option Block :=
  if a.isCode l then none
  else
    (HtmlBlock.begins? l.content).map fun (ending, _) =>
      let more := if ending.isReached l.content then [] else htmlLines a ending rest
      ofContent .htmlBlock (textOf a.indent true (l :: more)) (1 + more.length)

def heading (level : Nat) (t : List Char) (height : Nat) : Block :=
  ofInline (.heading ('h' :: Nat.toDigits 10 level)) t height

/-- The text of a heading without the marks that close it. A blank stands before them. -/
def dropClosingMarks (t : List Char) : List Char :=
  let t := dropEndWhile isSpace t
  let short := dropEndWhile (· == '#') t
  if short.getLast?.any isSpace then short else t

def heading? (a : Around) (l : Line) : Option Block :=
  if a.isCode l then none
  else
    (headingLevel? l.content).map fun level =>
      heading level (dropClosingMarks (l.content.drop level)) 1

/-- How many lines stand before the one that underlines a heading, and its level. -/
def underline? (a : Around) : List Line → Option (Nat × Nat)
  | [] => none
  | l :: rest =>
    let goesOn := (underline? a rest).map fun (count, level) => (count + 1, level)
    if l.isEmpty then none
    else if a.isCode l then goesOn
    else
      match if a.isOutside l then none else underlineLevel? l.content with
      | some level => some (0, level)
      | none => if l.indent < 0 || !interrupts a .paragraph l rest then goesOn else none

def underlined? (a : Around) (l : Line) (rest : List Line) : Option Block :=
  (underline? a rest).map fun (count, level) =>
    heading level (textOf a.indent false (l :: rest.take count)) (count + 2)

def table? (a : Around) (l : Line) (rest : List Line) : Option Block :=
  (TableBlock.begins? a l rest).map fun (heads, styles) =>
    let rows := TableBlock.rows a (interrupts a .quote) styles.length 0 (rest.drop 1)
    ⟨TableBlock.events heads styles rows, 2 + rows.length⟩

def paragraph (a : Around) (l : Line) (rest : List Line) : Block :=
  let more := following a .paragraph rest
  ofInline .paragraph (textOf a.indent false (l :: more)) (1 + more.length)

end Block

end Gemtext.Markdown
