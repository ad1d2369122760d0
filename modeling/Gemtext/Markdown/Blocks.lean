import Gemtext.Markdown.Container

/-! # The blocks of a text

Blocks are read from line to line: the first kind of block that a line may begin is the one
it begins, and a line that begins nothing else begins a paragraph. Blocks lie inside each
other up to a depth. Twenty levels down nothing is read any more, and the lines that belong
there are passed over.
-/

namespace Gemtext.Markdown

/-- The block that a line begins, with ways to read blocks one level and two levels further
down. -/
def block (one two : Blocks) (a : Around) (l : Line) (rest : List Line) : Block :=
  (Block.table? a l rest <|> Block.code? a l rest <|> Block.fence? a l rest <|>
    Block.quote? one a l rest <|> Block.rule? a l <|> Block.list? two a l rest <|>
    Block.noteDefinition? one a l rest <|> Block.linkDefinition? a l rest <|>
    Block.html? a l rest <|> Block.heading? a l <|> Block.underlined? a l rest <|>
    Block.descriptionList? two a l rest).getD (Block.paragraph a l rest)

/-- The blocks that some lines begin with, after some that are taken already. They end
before a line that stands outside. -/
def blocksFrom (first : Around → Line → List Line → Block) (a : Around) :
    (taken : Nat) → List Line → Block
  | _, [] => ⟨[], 0⟩
  | taken + 1, _ :: rest =>
    let more := blocksFrom first a taken rest
    ⟨more.events, more.height + 1⟩
  | 0, l :: rest =>
    if l.isEmpty then
      let more := blocksFrom first a 0 rest
      ⟨more.events, more.height + 1⟩
    else if a.isOutside l then ⟨[], 0⟩
    else
      let b := first a l rest
      let more := blocksFrom first a (b.height - 1) rest
      ⟨b.events ++ more.events, more.height + 1⟩

/-- Passes over lines where nothing is read. -/
def passOverLines : Blocks := fun a ls =>
  match ls.dropWhile Line.isEmpty with
  | [] => ⟨[], ls.length⟩
  | l :: rest => ⟨[], if a.isOutside l then ls.length - (rest.length + 1) else ls.length⟩

/-- Reads blocks with room for so many levels of blocks inside each other. -/
def blocksWithin : (room : Nat) → Blocks
  | 0 => passOverLines
  | 1 => fun a => blocksFrom (block passOverLines passOverLines) a 0
  | room + 2 => fun a => blocksFrom (block (blocksWithin (room + 1)) (blocksWithin room)) a 0

/-- The number of levels of blocks. -/
def blockRoom : Nat := 20

def eventsOfText (t : List Char) : List Event := (blocksWithin blockRoom {} (readLines t)).events

end Gemtext.Markdown
