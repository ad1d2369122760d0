import Mathlib.Data.List.TakeWhile
import Gemtext.Markdown.OfText

/-! # Words behind markers

A word with quote marks or bullets before it, read as Markdown. Each mark opens a block inside the
block of the mark before it, as long as there is room for it. A block that has no room left inside
is empty, so that the word and the marks that are left over are passed over.
-/

namespace Gemtext.Markdown

open Text

/-! ## Letters -/

/-- Of the ASCII characters, the letters and digits are those of the alphabet. -/
theorem has_ascii {c : Char} (ascii : c.toNat < 128) : alphanumeric.has c = c.isAlphanum := by
  have beyond : ∀ r ∈ alphanumeric.drop 3, 128 ≤ r.1 := by decide +kernel
  have none : CodePoints.has (alphanumeric.drop 3) c = false := by
    refine List.any_eq_false.mpr fun r member => ?_
    have far := beyond r member
    simp only [Bool.and_eq_true, decide_eq_true_eq]
    omega
  have first : ∀ n : Fin 128,
      CodePoints.has (alphanumeric.take 3) (Char.ofNat n) = (Char.ofNat n).isAlphanum := by
    decide +kernel
  have split : alphanumeric.has c =
      (CodePoints.has (alphanumeric.take 3) c || CodePoints.has (alphanumeric.drop 3) c) := by
    rw [CodePoints.has, CodePoints.has, CodePoints.has, ← List.any_append, List.take_append_drop]
  rw [split, none, Bool.or_false]
  simpa only [Char.ofNat_toNat] using first ⟨c.toNat, ascii⟩

section Letters

variable {c : Char} (letter : alphanumeric.has c = true)

include letter

theorem ne_of_letter (d : Char) (other : (decide (d.toNat < 128) && !d.isAlphanum) = true) :
    c ≠ d := by
  rintro rfl
  simp only [Bool.and_eq_true, decide_eq_true_eq, Bool.not_eq_true'] at other
  rw [has_ascii other.1, other.2] at letter
  cases letter

theorem isWhite_letter : isWhite c = false := by
  let blanks : CodePoints := [(0x09, 0x0D), (0x1C, 0x20), (0x85, 0x85), (0xA0, 0xA0),
    (0x1680, 0x1680), (0x2000, 0x200A), (0x2028, 0x2029), (0x202F, 0x202F), (0x205F, 0x205F),
    (0x3000, 0x3000)]
  have apart : (alphanumeric.all fun r => blanks.all fun s => r.2.blt s.1 || s.2.blt r.1) = true := by
    decide +kernel
  obtain ⟨r, member, low, high⟩ := CodePoints.has_iff.mp letter
  have others := List.all_eq_true.mp apart r member
  simp only [blanks, List.all_cons, Bool.and_eq_true, Bool.or_eq_true, Nat.blt_eq] at others
  rw [← Bool.not_eq_true]
  simp only [isWhite, Bool.or_eq_true, Bool.and_eq_true, decide_eq_true_eq, beq_iff_eq]
  omega

theorem isSpace_letter : isSpace c = false := by
  simp [isSpace, ne_of_letter letter ' ' rfl, ne_of_letter letter '\t' rfl]

theorem interruptsText_letter : interruptsText c = false := by
  have others : ∀ d ∈ '\x60' :: "\n!#$%&*+-:<=>@[\\]^_\x7b\x7d~".toList,
      (decide (d.toNat < 128) && !d.isAlphanum) = true := List.all_eq_true.mp (by decide)
  rw [← Bool.not_eq_true]
  intro mark
  simp only [interruptsText, Bool.or_eq_true, beq_iff_eq, List.contains_iff_mem] at mark
  exact ne_of_letter letter c (others c (List.mem_cons.mpr mark.symm)) rfl

end Letters

/-! ## Words -/

/-- Letters and digits of any script, of which there is at least one. -/
structure IsWord (w : List Char) : Prop where
  notEmpty : w ≠ []
  letters : ∀ c ∈ w, alphanumeric.has c = true

section Word

variable {w : List Char} (word : IsWord w)

include word

theorem IsWord.exists_cons : ∃ c rest, w = c :: rest ∧ alphanumeric.has c = true := by
  obtain ⟨c, rest, rfl⟩ := List.exists_cons_of_ne_nil word.notEmpty
  exact ⟨c, rest, rfl, word.letters c List.mem_cons_self⟩

theorem IsWord.trim_eq : trim w = w := by
  have keeps {t : List Char} (same : ∀ c ∈ t, alphanumeric.has c = true) :
      t.dropWhile isWhite = t := by
    refine List.dropWhile_eq_self_iff.mpr fun long => ?_
    rw [isWhite_letter (same _ (List.getElem_mem long))]
    exact Bool.false_ne_true
  rw [trim, dropEndWhile, keeps word.letters,
    keeps fun c member => word.letters c (List.mem_reverse.mp member), List.reverse_reverse]

theorem IsWord.not_blank : isBlank w = false := by
  obtain ⟨c, rest, rfl, letter⟩ := word.exists_cons
  rw [isBlank_cons, isWhite_letter letter, Bool.false_and]

/-! ## What begins no block -/

theorem fence?_word : fence? w = none := by
  obtain ⟨c, rest, rfl, letter⟩ := word.exists_cons
  simp [fence?, ne_of_letter letter '~' rfl, ne_of_letter letter '\x60' rfl]

theorem isRule_word : isRule w = false := by
  obtain ⟨c, rest, rfl, letter⟩ := word.exists_cons
  simp [isRule, ne_of_letter letter '*' rfl, ne_of_letter letter '-' rfl, ne_of_letter letter '_' rfl]

theorem marker?_word : marker? w = none := by
  have behind : ∀ c ∈ w.drop (w.takeWhile Char.isDigit).length, alphanumeric.has c = true :=
    fun c member => word.letters c (List.mem_of_mem_drop member)
  unfold marker?
  dsimp only
  split
  · rfl
  · next c rest begins =>
      have letter := behind c (begins ▸ List.mem_cons_self)
      simp [ne_of_letter letter '*' rfl, ne_of_letter letter '-' rfl, ne_of_letter letter '+' rfl,
        ne_of_letter letter '.' rfl, ne_of_letter letter ')' rfl]

theorem headingLevel?_word : headingLevel? w = none := by
  obtain ⟨c, rest, rfl, letter⟩ := word.exists_cons
  simp [headingLevel?, ne_of_letter letter '#' rfl]

theorem begins?_word : HtmlBlock.begins? w = none := by
  obtain ⟨c, rest, rfl, letter⟩ := word.exists_cons
  unfold HtmlBlock.begins?
  split
  · next inner same => exact absurd (List.cons.inj same).1 (ne_of_letter letter '<' rfl)
  · rfl

theorem noteDefinition?_word : noteDefinition? w = none := by
  obtain ⟨c, rest, rfl, letter⟩ := word.exists_cons
  unfold noteDefinition?
  split
  · next inner same => exact absurd (List.cons.inj same).1 (ne_of_letter letter '[' rfl)
  · rfl

theorem linkDefinition?_word : LinkDefinition.read? [w] = none := by
  obtain ⟨c, rest, rfl, letter⟩ := word.exists_cons
  unfold LinkDefinition.read?
  split
  · next first more same =>
      exact absurd (List.cons.inj (List.cons.inj same).1).1 (ne_of_letter letter '[' rfl)
  · rfl

/-- A line that holds only a word is a paragraph. -/
theorem block_word (one two : Blocks) {a : Around} {l : Line} (content : l.content = w)
    (last : l.ended = false) (shallow : a.isCode l = false) (cut : l.cut a.indent = w) :
    block one two a l [] = ⟨[.opening .paragraph, .inline w, .closing], 1⟩ := by
  obtain ⟨c, rest, same, letter⟩ := word.exists_cons
  have quote : Block.quote? one a l [] = none := by
    unfold Block.quote?
    split
    · next t begins =>
        rw [content, same] at begins
        exact absurd (List.cons.inj begins).1 (ne_of_letter letter '>' rfl)
    · rfl
  simp [block, Block.table?, TableBlock.begins?, Block.code?, shallow, Block.fence?, content,
    fence?_word word, quote, Block.rule?, isRule_word word, Block.list?, marker?_word word,
    Block.noteDefinition?, noteDefinition?_word word, Block.linkDefinition?, following,
    Line.contentEnded, last, linkDefinition?_word word, Block.html?, begins?_word word,
    Block.heading?, headingLevel?_word word, Block.underlined?, Block.underline?,
    Block.descriptionList?, Block.behindTerm?, Block.paragraph, Block.ofInline, textOf, cut,
    word.trim_eq]

end Word

/-! ## Markers -/

/-- A word behind so many equal markers, each with a space. -/
def marked (mark : Char) : (count : Nat) → (w : List Char) → List Char
  | 0, w => w
  | count + 1, w => mark :: ' ' :: marked mark count w

/-- The events of constructs of these kinds, each inside the one before it. -/
def enclosed : List Kind → List Event → List Event
  | [], es => es
  | kind :: kinds, es => .opening kind :: enclosed kinds es ++ [.closing]

/-- The events of a paragraph with a word, or nothing. -/
def wordEvents (shown : Bool) (w : List Char) : List Event :=
  if shown then [.opening .paragraph, .inline w, .closing] else []

/-- The way to read blocks with room for one level, and all that lies within. -/
theorem blocksWithin_succ (room : Nat) :
    blocksWithin (room + 1) =
      fun a => blocksFrom (block (blocksWithin room) (blocksWithin (room - 1))) a 0 := by
  cases room <;> rfl

theorem blocksFrom_single {first : Around → Line → List Line → Block} {a : Around} {l : Line}
    (shown : l.isEmpty = false) (inside : a.isOutside l = false) :
    blocksFrom first a 0 [l] = ⟨(first a l []).events, 1⟩ := by
  simp [blocksFrom, shown, inside]

theorem passOverLines_single {a : Around} {l : Line} (shown : l.isEmpty = false)
    (inside : a.isOutside l = false) : passOverLines a [l] = ⟨[], 1⟩ := by
  simp [passOverLines, shown, inside]

/-- A line behind bullets that are taken already, with so many characters. -/
def bulletedLine (lead t : List Char) : Line :=
  { text := lead ++ t, shift := lead.length, indent := lead.length, ended := false }

theorem content_bulletedLine (lead t : List Char) : (bulletedLine lead t).content = t :=
  List.drop_left

/-- The columns of what is taken are cut off, as there is no tab among them. -/
theorem cutFrom_lead {lead : List Char} (noTab : '\t' ∉ lead) (base taken : Nat) (t : List Char) :
    Line.cutFrom base (taken + lead.length) lead.length taken (lead ++ t) = t := by
  induction lead generalizing taken with
  | nil => cases t <;> simp [Line.cutFrom]
  | cons c rest ih =>
      obtain ⟨other, behind⟩ := List.ne_and_not_mem_of_not_mem_cons noTab
      have more : ¬ taken + (rest.length + 1) ≤ taken := by omega
      have next := ih behind (taken + 1)
      rw [Nat.add_right_comm, Nat.add_assoc] at next
      simpa [Line.cutFrom, more, other.symm] using next

theorem marker?_marked (count : Nat) (w : List Char) :
    marker? (marked '*' (count + 1) w) = some ⟨'*', none, 1⟩ := by
  simp [marked, marker?, beginsBlank, isSpace]

/-- The events of a line that begins a list of one item. -/
theorem block_bullet (one two : Blocks) {a : Around} {l : Line} {behind : List Char}
    (content : l.content = '*' :: behind) (marker : marker? l.content = some ⟨'*', none, 1⟩)
    (rule : isRule l.content = false) (inside : a.isOutside l = false) (shallow : a.isCode l = false) :
    (block one two a l []).events =
      .opening .bulletList ::
        (.opening .listItem :: (Block.item two a ⟨'*', none, 1⟩ l []).events ++ [.closing]) ++
        [.closing] := by
  have fence : fence? l.content = none := by simp [content, fence?]
  have quote : Block.quote? one a l [] = none := by simp [Block.quote?, content]
  have admitted : a.admitsItem l = true := by
    unfold Around.admitsItem
    split <;> simp [inside]
  have noQuote : (l.content.head? == some '>') = false := by simp [content]
  have goesOn : interrupts a .list l [] = false := by simp [interrupts, fence, rule, noQuote]
  simp [block, Block.table?, TableBlock.begins?, Block.code?, shallow, Block.fence?, fence, quote,
    Block.rule?, rule, Block.list?, admitted, marker, Block.items, inside, goesOn, Marker.goesOn,
    Block.within]

section Marked

variable {w : List Char} (word : IsWord w) {mark : Char}

include word

/-- A marked word begins with no blank. -/
theorem marked_head (plain : isSpace mark = false) (count : Nat) :
    ∃ c rest, marked mark count w = c :: rest ∧ isSpace c = false := by
  cases count with
  | zero =>
      obtain ⟨c, rest, same, letter⟩ := word.exists_cons
      exact ⟨c, rest, same, isSpace_letter letter⟩
  | succ count => exact ⟨mark, _, rfl, plain⟩

theorem blankWidth_marked (plain : isSpace mark = false) (column count : Nat) :
    blankWidth column (marked mark count w) = 0 := by
  obtain ⟨c, rest, same, blank⟩ := marked_head word plain count
  rw [same]
  simp only [isSpace, Bool.or_eq_false_iff, beq_eq_false_iff_ne] at blank
  unfold blankWidth
  split
  · next t begins => exact absurd (List.cons.inj begins).1 blank.1
  · next t begins => exact absurd (List.cons.inj begins).1 blank.2
  · rfl

theorem blankCount_marked (plain : isSpace mark = false) (count : Nat) :
    blankCount (marked mark count w) = 0 := by
  obtain ⟨c, rest, same, blank⟩ := marked_head word plain count
  rw [same, blankCount, List.takeWhile_cons, blank]
  rfl

/-! ## Quotes -/

/-- A line behind quote marks that are taken already. -/
def quotedLine (base : Nat) (t : List Char) : Line :=
  { text := t, shift := 0, indent := 0, base, ended := false }

theorem block_quote (one two : Blocks) (base count : Nat) :
    block one two {} (quotedLine base (marked '>' (count + 1) w)) [] =
      Block.within .blockQuote (one {} [quotedLine 2 (marked '>' count w)]) := by
  have line : (quotedLine base (marked '>' (count + 1) w)).unquote (' ' :: marked '>' count w) =
      quotedLine 2 (marked '>' count w) := by
    simp [Line.unquote, Line.leave, quotedLine, blankWidth_marked word, blankCount_marked word,
      isSpace]
  have content : (quotedLine base (marked '>' (count + 1) w)).content =
      '>' :: ' ' :: marked '>' count w := rfl
  have shallow : Around.isCode {} (quotedLine base (marked '>' (count + 1) w)) = false := rfl
  simp [block, Block.table?, TableBlock.begins?, Block.code?, shallow, Block.fence?, content, fence?,
    Block.quote?, line, Block.quotedLines]

/-- Quote marks open quotes inside each other as long as there is room. -/
theorem quotes_read (room count base : Nat) :
    blocksWithin room {} [quotedLine base (marked '>' count w)] =
      ⟨enclosed (List.replicate (min count room) .blockQuote) (wordEvents (count < room) w), 1⟩ := by
  have shown (base count : Nat) : (quotedLine base (marked '>' count w)).isEmpty = false := by
    obtain ⟨c, rest, same, _⟩ := marked_head word (show isSpace '>' = false from rfl) count
    rw [same]
    rfl
  induction room generalizing count base with
  | zero => exact (passOverLines_single (shown base count) rfl).trans (by simp [enclosed, wordEvents])
  | succ room ih =>
      rw [blocksWithin_succ]
      refine (blocksFrom_single (shown base count) rfl).trans ?_
      cases count with
      | zero =>
          rw [marked, block_word word _ _ (l := quotedLine base w) rfl rfl rfl (Line.cut_zero _)]
          simp [enclosed, wordEvents]
      | succ count =>
          rw [block_quote word, ih]
          simp [Block.within, Nat.succ_min_succ, List.replicate_succ, enclosed]

/-! ### Lists -/

/-- What is left of a bulleted word has a letter in it, and so is no rule. -/
theorem isRule_marked (count : Nat) : isRule (marked '*' count w) = false := by
  obtain ⟨c, rest, rfl, letter⟩ := word.exists_cons
  have member : c ∈ marked '*' count (c :: rest) := by
    induction count with
    | zero => exact List.mem_cons_self
    | succ count ih => exact List.mem_cons_of_mem _ (List.mem_cons_of_mem _ ih)
  cases count with
  | zero => exact isRule_word word
  | succ count =>
      have broken : (marked '*' (count + 1) (c :: rest)).all (fun d => d == '*' || isSpace d) = false := by
        refine List.all_eq_false.mpr ⟨c, member, ?_⟩
        simp [ne_of_letter letter '*' rfl, isSpace_letter letter]
      rw [marked] at broken ⊢
      simp only [isRule, broken, Bool.and_false, Bool.false_and]

theorem item_marked (inner : Blocks) (a : Around) (lead : List Char) (count : Nat) :
    Block.item inner a ⟨'*', none, 1⟩ (bulletedLine lead (marked '*' (count + 1) w)) [] =
      inner { a with indent := lead.length + 2, list := some a.indent }
        [bulletedLine (lead ++ ['*', ' ']) (marked '*' count w)] := by
  obtain ⟨c, rest, same, blank⟩ := marked_head word (show isSpace '*' = false from rfl) count
  have width (column : Nat) := blankWidth_marked word (show isSpace '*' = false from rfl) column count
  have behind : (marked '*' (count + 1) w).drop 1 = ' ' :: marked '*' count w := rfl
  have isEmpty : (' ' :: marked '*' count w).all isSpace = false := by simp [same, blank]
  have number : blankCount (' ' :: marked '*' count w) = 1 := by
    simpa [blankCount, isSpace] using blankCount_marked word rfl count
  unfold Block.item
  rw [content_bulletedLine]
  dsimp only
  rw [behind, isEmpty, number]
  simp [blankWidth, width, bulletedLine, marked, Nat.add_assoc, Int.add_assoc]

theorem block_list (one two : Blocks) {a : Around} {lead : List Char}
    (indent : a.indent = lead.length) (count : Nat) :
    (block one two a (bulletedLine lead (marked '*' (count + 1) w)) []).events =
      .opening .bulletList ::
        (.opening .listItem :: (two { a with indent := lead.length + 2, list := some a.indent }
          [bulletedLine (lead ++ ['*', ' ']) (marked '*' count w)]).events ++ [.closing]) ++
        [.closing] := by
  have content : (bulletedLine lead (marked '*' (count + 1) w)).content =
      '*' :: ' ' :: marked '*' count w := content_bulletedLine lead _
  rw [← item_marked word two a lead count]
  refine block_bullet one two content ?_ ?_ ?_ ?_
  · rw [content, ← marked, marker?_marked]
  · rw [content, ← marked, isRule_marked word]
  · simp [Around.isOutside, bulletedLine, indent]
  · simp only [Around.isCode, bulletedLine, indent, decide_eq_false_iff_not]
    omega

/-- Bullets open lists inside each other as long as there is room for a list and its item. -/
theorem bullets_read (room count : Nat) {a : Around} (lead : List Char)
    (indent : a.indent = lead.length) (noTab : '\t' ∉ lead) :
    blocksWithin room a [bulletedLine lead (marked '*' count w)] =
      ⟨enclosed (List.replicate (min count ((room + 1) / 2)) [.bulletList, .listItem]).flatten
        (wordEvents (count < (room + 1) / 2) w), 1⟩ := by
  have shown (lead : List Char) (count : Nat) :
      (bulletedLine lead (marked '*' count w)).isEmpty = false := by
    obtain ⟨c, rest, same, _⟩ := marked_head word (show isSpace '*' = false from rfl) count
    rw [Line.isEmpty, content_bulletedLine, same]
    rfl
  have inside {a : Around} {lead t : List Char} (indent : a.indent = lead.length) :
      a.isOutside (bulletedLine lead t) = false := by
    simp [Around.isOutside, bulletedLine, indent]
  induction room using Nat.strong_induction_on generalizing count a lead with
  | _ room ih =>
      cases room with
      | zero =>
          refine (passOverLines_single (shown lead count) (inside indent)).trans ?_
          simp [enclosed, wordEvents]
      | succ room =>
          rw [blocksWithin_succ]
          refine (blocksFrom_single (shown lead count) (inside indent)).trans ?_
          cases count with
          | zero =>
              have cut : (bulletedLine lead w).cut a.indent = w := by
                simpa [Line.cut, bulletedLine, indent] using cutFrom_lead noTab 0 0 w
              have shallow : a.isCode (bulletedLine lead w) = false := by
                simp only [Around.isCode, bulletedLine, indent, decide_eq_false_iff_not]
                omega
              rw [marked, block_word word _ _ (content_bulletedLine lead w) rfl shallow cut]
              simp [enclosed, wordEvents, show 0 < (room + 1 + 1) / 2 by omega]
          | succ count =>
              have deeper : (room + 1 + 1) / 2 = (room - 1 + 1) / 2 + 1 := by omega
              rw [block_list word _ _ indent, deeper, Nat.succ_min_succ,
                ih (room - 1) (by omega) count (lead ++ ['*', ' ']) (by simp) (by simpa using noTab)]
              simp [List.replicate_succ, enclosed]

end Marked

/-! ## Inline text -/

/-- The texts of these events are read into those, and nothing is carried along. -/
def Reads (defs : Definitions) (es es' : List Event) : Prop :=
  ∀ s, (readTexts defs es).run s = (es', s)

theorem Reads.append {defs : Definitions} {es es' more more' : List Event} (first : Reads defs es es')
    (behind : Reads defs more more') : Reads defs (es ++ more) (es' ++ more') := by
  intro s
  have split : readTexts defs (es ++ more) = do
      return (← readTexts defs es) ++ (← readTexts defs more) := List.mapM_append
  calc (readTexts defs (es ++ more)).run s
      = let read := (readTexts defs es).run s
        let others := (readTexts defs more).run read.2
        (read.1 ++ others.1, others.2) := by rw [split]; rfl
    _ = (es' ++ more', s) := by simp only [first s, behind s]

theorem Reads.enclosed {defs : Definitions} {es es' : List Event} (inside : Reads defs es es')
    (kinds : List Kind) : Reads defs (enclosed kinds es) (enclosed kinds es') := by
  induction kinds with
  | nil => exact inside
  | cons kind kinds ih =>
      have opening : Reads defs [.opening kind] [.opening kind] := fun _ => rfl
      have closing : Reads defs [.closing] [.closing] := fun _ => rfl
      exact (opening.append ih).append closing

section Text

variable {w : List Char} (word : IsWord w)

include word

/-- A word is one run of plain text. -/
theorem atom?_word : atom? (.start w) = some (.plain w, w.length) := by
  have whole : w.takeWhile (!interruptsText ·) = w :=
    List.takeWhile_eq_self_iff.mpr fun c member => by
      rw [interruptsText_letter (word.letters c member), Bool.not_false]
  obtain ⟨c, rest, rfl, letter⟩ := word.exists_cons
  simp [atom?, Place.start, ne_of_letter letter '\n' rfl, ne_of_letter letter '\\' rfl,
    ne_of_letter letter '<' rfl, ne_of_letter letter '&' rfl, ne_of_letter letter '\x60' rfl, whole]

theorem markRun_word : markRun w = 0 := by
  obtain ⟨c, rest, rfl, letter⟩ := word.exists_cons
  simp [markRun, ne_of_letter letter '*' rfl, ne_of_letter letter '_' rfl, ne_of_letter letter '~' rfl]

theorem readInline_word (defs : Definitions) (s : Reader) :
    (readInline defs w).run s = ([.node .text w []], s) := by
  have atom := atom?_word word
  have marks := markRun_word word
  have behind (fuel : Nat) (run : List Char) (p : Place) (last : p.inside = []) :
      readPieces defs true fuel nestingRoom run p = pure (textPiece run) := by
    cases fuel with
    | zero => rfl
    | succ fuel => rw [readPieces, last]
  have pieces : readPieces defs true w.length nestingRoom [] (.start w) = pure [.text w] := by
    obtain ⟨c, rest, rfl, letter⟩ := word.exists_cons
    have room : nestingRoom ≠ 0 := by decide
    have last := behind rest.length ((c :: rest).reverse ++ [])
      ((Place.start (c :: rest)).forward (c :: rest).length) List.drop_length
    have text : textPiece ((c :: rest).reverse ++ []) = [.text (c :: rest)] := by simp [textPiece]
    rw [List.length_cons, readPieces, show (Place.start (c :: rest)).inside = c :: rest from rfl]
    simp only [room, if_false, marks, atom, Atom.pieces, last, text, pure_bind, List.nil_append]
  calc (readInline defs w).run s
      = let read := (readPieces defs true w.length nestingRoom [] (.start w)).run
          { s with passed := {} }
        (pairMarks true read.1, { read.2 with passed := s.passed }) := rfl
    _ = ([.node .text w []], s) := by
        rw [pieces]
        rfl

end Text

/-- The events of a paragraph with a word that is read, or nothing. -/
def textEvents (shown : Bool) (w : List Char) : List Event :=
  if shown then [.opening .paragraph, .tree (.node .inline w [.node .text w []]), .closing] else []

theorem wordEvents_read {w : List Char} (word : IsWord w) (defs : Definitions) (shown : Bool) :
    Reads defs (wordEvents shown w) (textEvents shown w) := by
  intro s
  have text := readInline_word word defs s
  cases shown with
  | false => rfl
  | true =>
      simp [wordEvents, textEvents, readTexts, text]
      rfl

/-! ## Lines -/

theorem splitWhere_eq_single {p : Char → Bool} {t : List Char} (none : ∀ c ∈ t, p c = false) :
    splitWhere p t = [t] := by
  induction t with
  | nil => rfl
  | cons c rest ih =>
      obtain ⟨other, behind⟩ := List.forall_mem_cons.mp none
      simp [splitWhere, other, ih behind]

/-- A text without breaks is one line. -/
theorem readLines_single {t : List Char} (plain : ∀ c ∈ t, c ≠ '\n' ∧ c ≠ '\r' ∧ c ≠ '\x00')
    (shown : t.all isSpace = false) : readLines t = [Line.ofText false t] := by
  have unix : unixBreaks t = t := unixBreaks_eq_self fun member => (plain _ member).2.1 rfl
  have same : (t.map fun c => if c == '\x00' then '\uFFFD' else c) = t :=
    (List.map_congr_left fun c member => by simp [(plain c member).2.2]).trans (List.map_id t)
  have one : splitWhere (· == '\n') t = [t] :=
    splitWhere_eq_single fun c member => by simpa using (plain c member).1
  rw [readLines, unix, same, one, linesOf, shown]
  rfl

theorem mem_marked {mark c : Char} {count : Nat} {w : List Char} (member : c ∈ marked mark count w) :
    c = mark ∨ c = ' ' ∨ c ∈ w := by
  induction count with
  | zero => exact .inr (.inr member)
  | succ count ih =>
      rcases List.mem_cons.mp member with rfl | behind
      · exact .inl rfl
      · rcases List.mem_cons.mp behind with rfl | more
        · exact .inr (.inl rfl)
        · exact ih more

theorem readLines_marked {w : List Char} (word : IsWord w) {mark : Char}
    (plain : isSpace mark = false ∧ mark ≠ '\n' ∧ mark ≠ '\r' ∧ mark ≠ '\x00') (count : Nat) :
    readLines (marked mark count w) = [quotedLine 0 (marked mark count w)] := by
  have shown : (marked mark count w).all isSpace = false := by
    obtain ⟨c, rest, same, blank⟩ := marked_head word plain.1 count
    rw [same, List.all_cons, blank, Bool.false_and]
  have oneLine : ∀ c ∈ marked mark count w, c ≠ '\n' ∧ c ≠ '\r' ∧ c ≠ '\x00' := by
    intro c member
    rcases mem_marked member with rfl | rfl | letter
    · exact plain.2
    · decide
    · have letter := word.letters c letter
      exact ⟨ne_of_letter letter '\n' rfl, ne_of_letter letter '\r' rfl, ne_of_letter letter '\x00' rfl⟩
  rw [readLines_single oneLine shown, Line.ofText, blankCount_marked word plain.1,
    blankWidth_marked word plain.1]
  rfl

/-! ## Trees -/

/-- Constructs of these kinds, each inside the one before it. -/
def nested : List Kind → List Tree → List Tree
  | [], ts => ts
  | kind :: kinds, ts => [.node kind [] (nested kinds ts)]

/-- The tree of a paragraph with a word, or nothing. -/
def wordTrees (shown : Bool) (w : List Char) : List Tree :=
  if shown then [.node .paragraph [] [.node .inline w [.node .text w []]]] else []

/-- The events belong to no note. -/
def BesideNotes (es : List Event) : Prop :=
  ∀ main, es.foldl Sorted.add { main } = { main := es.reverse ++ main }

theorem BesideNotes.enclosed {es : List Event} (inside : BesideNotes es) (kinds : List Kind) :
    BesideNotes (enclosed kinds es) := by
  induction kinds with
  | nil => exact inside
  | cons kind kinds ih =>
      intro main
      simp [Markdown.enclosed, Sorted.add, ih (.opening kind :: main)]

/-- The events make these trees, whatever is open around them. -/
def Makes (es : List Event) (ts : List Tree) : Prop :=
  ∀ s, es.foldlM Nesting.add s = .ok { s with trees := ts.reverse ++ s.trees }

theorem Makes.enclosed {es : List Event} {ts : List Tree} (inside : Makes es ts)
    (kinds : List Kind) : Makes (enclosed kinds es) (nested kinds ts) := by
  induction kinds with
  | nil => exact inside
  | cons kind kinds ih =>
      intro s
      have opened : Nesting.add s (.opening kind) = .ok ⟨[], (kind, s.trees) :: s.around⟩ := rfl
      have within := ih ⟨[], (kind, s.trees) :: s.around⟩
      calc (Markdown.enclosed (kind :: kinds) es).foldlM Nesting.add s
          = ((Markdown.enclosed kinds es).foldlM Nesting.add
              ⟨[], (kind, s.trees) :: s.around⟩).bind (Nesting.add · .closing) := by
            rw [Markdown.enclosed, List.foldlM_append, List.foldlM_cons, opened]
            simp only [List.foldlM_cons, List.foldlM_nil, bind_pure]
            rfl
        _ = .ok { s with trees := [.node kind [] (nested kinds ts)] ++ s.trees } := by
            rw [within]
            simp [Except.bind, Nesting.add]

theorem textEvents_makes (shown : Bool) (w : List Char) :
    Makes (textEvents shown w) (wordTrees shown w) := by
  intro s
  cases shown <;> rfl

theorem textEvents_besideNotes (shown : Bool) (w : List Char) :
    BesideNotes (textEvents shown w) := by
  intro main
  cases shown <;> rfl

/-- What is read from a text whose blocks are a word inside constructs. -/
theorem read?_enclosed {t w : List Char} (word : IsWord w) {kinds : List Kind} {shown : Bool}
    (events : eventsOfText t = enclosed kinds (wordEvents shown w)) :
    read? t = .ok (nested kinds (wordTrees shown w)) := by
  have texts := (wordEvents_read word (definitionsOf (eventsOfText t)) shown).enclosed kinds {}
  have sorted := (textEvents_besideNotes shown w).enclosed kinds []
  have trees := (textEvents_makes shown w).enclosed kinds {}
  rw [← events] at texts
  simp [read?, texts, sorted, trees, noteEvents, treesOfEvents?]

theorem read?_quotes {w : List Char} (word : IsWord w) (count : Nat) :
    read? (marked '>' count w) =
      .ok (nested (List.replicate (min count blockRoom) .blockQuote)
        (wordTrees (count < blockRoom) w)) := by
  refine read?_enclosed word ?_
  rw [eventsOfText, readLines_marked word (by decide), quotes_read word]

theorem read?_bullets {w : List Char} (word : IsWord w) (count : Nat) :
    read? (marked '*' count w) =
      .ok (nested (List.replicate (min count ((blockRoom + 1) / 2)) [.bulletList, .listItem]).flatten
        (wordTrees (count < (blockRoom + 1) / 2) w)) := by
  refine read?_enclosed word ?_
  rw [eventsOfText, readLines_marked word (by decide)]
  exact congrArg Block.events (bullets_read word blockRoom count (a := {}) [] rfl (by simp))

end Gemtext.Markdown
