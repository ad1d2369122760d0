import Mathlib.Data.List.Chain
import Gemtext.Proofs.Preformatted

/-! # Spaced lines

The lines of a page, with the preformatted ones told apart. They are spaced if the page does not
begin with an empty line and no two empty lines follow one another. Lines that end with an empty one
are spaced together exactly if they are spaced by themselves, so that blocks can be looked at one by
one. Most blocks are written as lines that all have text, with an empty line behind them.
-/

namespace Gemtext

open Text

/-! ## Lines of a text -/

section TextLines

variable {line s t : List Char}

theorem textLines_append (ends : EndsLine s) (t : List Char) :
    textLines (s ++ t) = textLines s ++ textLines t := by
  have finished : s = [] ∨ s.getLast? = some '\n' := by
    rcases ends with rfl | ⟨front, rfl⟩
    · exact .inl rfl
    · exact .inr List.getLast?_concat
  have behind := textLines_finished s t
  rwa [if_pos finished, List.append_nil] at behind

theorem not_mem_textLines (member : line ∈ textLines t) : '\n' ∉ line := by
  induction t generalizing line with
  | nil => cases member
  | cons c rest ih =>
      rw [textLines] at member
      split at member
      · rcases List.mem_cons.mp member with rfl | behind
        · simp
        · exact ih behind
      · next other =>
          split at member
          · obtain rfl := List.mem_singleton.mp member
            simpa using Ne.symm other
          · next first more lines =>
              rcases List.mem_cons.mp member with rfl | behind
              · have one := ih (lines ▸ List.mem_cons_self)
                simpa [one] using Ne.symm other
              · exact ih (lines ▸ List.mem_cons_of_mem first behind)

/-- A text of whole lines is put together from them. -/
theorem flatMap_textLines (ends : EndsLine t) : (textLines t).flatMap (· ++ ['\n']) = t := by
  induction t with
  | nil => rfl
  | cons c rest ih =>
      have suffix : ['\n'] <:+ c :: rest := ends.resolve_left (List.cons_ne_nil c rest)
      rw [textLines]
      rcases List.suffix_cons_iff.mp suffix with whole | inside
      · obtain ⟨rfl, rfl⟩ := List.cons.inj whole
        rfl
      · have behind := ih (.inr inside)
        split
        · next feed => simp [feed, behind]
        · cases lines : textLines rest with
          | nil =>
              rw [lines] at behind
              cases behind
              cases inside.length_le
          | cons line more =>
              rw [lines] at behind
              simpa using behind

end TextLines

/-! ## Lines of a page -/

/-- A line of a page, and whether it belongs to a code block or a table. -/
structure PageLine where
  text : List Char
  preformatted : Bool
  deriving DecidableEq, Repr

namespace PageLine

/-- An empty line outside of code blocks and tables. -/
def empty : PageLine := ⟨[], false⟩

end PageLine

def plainLines (t : List Char) : List PageLine := (textLines t).map (⟨·, false⟩)

def unlines (lines : List PageLine) : List Char := lines.flatMap (·.text ++ ['\n'])

/-- Lines that do not begin with an empty one and hold no two empty ones behind one another. In code
    blocks and tables no line counts as empty. -/
structure Spaced (lines : List PageLine) : Prop where
  begins : lines.head? ≠ some .empty
  apart : ¬[.empty, .empty] <:+: lines

/-- One of two lines is not empty. -/
def OneShows (a b : PageLine) : Prop := a ≠ .empty ∨ b ≠ .empty

theorem isChain_oneShows {lines : List PageLine} :
    lines.IsChain OneShows ↔ ¬[.empty, .empty] <:+: lines := by
  rw [List.isChain_iff_forall_rel_of_append_cons_cons]
  constructor
  · rintro each ⟨before, behind, rfl⟩
    exact (each (List.append_assoc before _ behind)).elim (· rfl) (· rfl)
  · rintro apart a b before behind rfl
    by_cases first : a = .empty
    · refine .inr ?_
      rintro rfl
      exact apart ⟨before, behind, by simp [first]⟩
    · exact .inl first

/-- Spaced lines may stand behind an empty line. -/
theorem spaced_iff {lines : List PageLine} :
    Spaced lines ↔ (.empty :: lines).IsChain OneShows := by
  rw [List.isChain_cons, isChain_oneShows]
  constructor
  · rintro ⟨begins, apart⟩
    exact ⟨fun first isFirst => .inr fun same => begins (same ▸ isFirst), apart⟩
  · rintro ⟨first, apart⟩
    exact ⟨fun begins => (first _ begins).elim (· rfl) (· rfl), apart⟩

/-- Behind lines that end with an empty one, lines are spaced as they are by themselves. -/
theorem spaced_append_iff {before behind : List PageLine}
    (ends : ∀ last ∈ before.getLast?, last = .empty) :
    Spaced (before ++ behind) ↔ Spaced before ∧ Spaced behind := by
  have last : (.empty :: before).getLast? = some .empty := by
    rw [List.getLast?_cons]
    cases given : before.getLast? with
    | none => rfl
    | some line => exact congrArg some (ends line given)
  have afterEmpty : Spaced behind ↔
      (∀ first ∈ behind.head?, OneShows .empty first) ∧ behind.IsChain OneShows :=
    spaced_iff.trans List.isChain_cons
  rw [spaced_iff, ← List.cons_append, List.isChain_append, ← spaced_iff, last, afterEmpty]
  simp only [Option.mem_def, Option.some.injEq, forall_eq', and_comm]

theorem spaced_flatMap {α : Type} {f : α → List PageLine} {as : List α}
    (ends : ∀ a ∈ as, ∀ last ∈ (f a).getLast?, last = .empty) :
    Spaced (as.flatMap f) ↔ ∀ a ∈ as, Spaced (f a) := by
  induction as with
  | nil => simp [spaced_iff]
  | cons a rest ih =>
      obtain ⟨first, others⟩ := List.forall_mem_cons.mp ends
      rw [List.flatMap_cons, spaced_append_iff first, ih others, List.forall_mem_cons]

/-! ### Blocks of lines -/

/-- Lines of blocks: they are spaced, and end with an empty line behind one with text. -/
structure Parted (lines : List PageLine) : Prop where
  spaced : Spaced lines
  ends : lines = [] ∨ ∃ front last, lines = front ++ [last, .empty] ∧ last.text ≠ []

namespace Parted

variable {lines before behind : List PageLine}

theorem nil : Parted [] := ⟨spaced_iff.mpr (.singleton _), .inl rfl⟩

theorem last (h : Parted lines) : ∀ last ∈ lines.getLast?, last = .empty := by
  rcases h.ends with rfl | ⟨front, line, rfl, _⟩
  · exact nofun
  · simp

theorem append (first : Parted before) (second : Parted behind) : Parted (before ++ behind) where
  spaced := (spaced_append_iff first.last).mpr ⟨first.spaced, second.spaced⟩
  ends := by
    rcases second.ends with rfl | ⟨front, last, rfl, some⟩
    · rw [List.append_nil]
      exact first.ends
    · exact .inr ⟨before ++ front, last, by simp, some⟩

theorem flatMap {α : Type} {f : α → List PageLine} {as : List α} (each : ∀ a ∈ as, Parted (f a)) :
    Parted (as.flatMap f) := by
  induction as with
  | nil => exact nil
  | cons a rest ih =>
      obtain ⟨first, others⟩ := List.forall_mem_cons.mp each
      exact first.append (ih others)

end Parted

/-- Lines of which no two empty ones follow one another, and the last of which has text. -/
structure Dense (lines : List PageLine) : Prop where
  apart : lines.IsChain OneShows
  last : ∀ last ∈ lines.getLast?, last.text ≠ []

namespace Dense

variable {lines before behind : List PageLine}

theorem of_ne_empty (each : ∀ line ∈ lines, line ≠ .empty)
    (last : ∀ last ∈ lines.getLast?, last.text ≠ []) : Dense lines where
  apart := (List.pairwise_of_forall_mem_list fun a member _ _ => .inl (each a member)).isChain
  last := last

theorem append (first : Dense before) (second : Dense behind) : Dense (before ++ behind) where
  apart := by
    refine List.isChain_append.mpr ⟨first.apart, second.apart, fun line isLast _ _ => .inl ?_⟩
    rintro rfl
    exact first.last _ isLast rfl
  last := by
    intro line isLast
    rw [List.getLast?_append] at isLast
    cases given : behind.getLast? with
    | none => exact first.last line (by simpa [given] using isLast)
    | some own => exact second.last line (by simpa [given] using isLast)

/-- Lines that begin with one that is not empty, with an empty one behind them. -/
theorem parted (dense : Dense lines) {first : PageLine} (begins : lines.head? = some first)
    (shows : first ≠ .empty) : Parted (lines ++ [.empty]) := by
  cases lines using List.reverseRec with
  | nil => cases begins
  | append_singleton front last =>
      have text : last.text ≠ [] := dense.last last (by simp)
      have visible : last ≠ .empty := by
        rintro rfl
        exact text rfl
      refine ⟨spaced_iff.mpr (List.isChain_cons.mpr ⟨fun line isFirst => ?_, ?_⟩),
        .inr ⟨front, last, by simp, text⟩⟩
      · rw [List.head?_append, begins] at isFirst
        obtain rfl := Option.some.inj isFirst
        exact .inr shows
      · refine List.isChain_append.mpr ⟨dense.apart, .singleton _, fun line isLast _ _ => .inl ?_⟩
        rw [List.getLast?_concat] at isLast
        obtain rfl := Option.some.inj isLast
        exact visible

end Dense

/-- Lines none of which is empty, with an empty one behind them. -/
theorem parted_of_ne_empty {lines : List PageLine} (some : lines ≠ [])
    (each : ∀ line ∈ lines, line ≠ .empty) (last : ∀ last ∈ lines.getLast?, last.text ≠ []) :
    Parted (lines ++ [.empty]) :=
  (Dense.of_ne_empty each last).parted (List.head?_eq_some_head some) (each _ (List.head_mem some))

/-! ### Plain lines -/

section PlainLines

variable {s t line : List Char}

theorem plainLines_append (ends : EndsLine s) (t : List Char) :
    plainLines (s ++ t) = plainLines s ++ plainLines t := by
  rw [plainLines, textLines_append ends, List.map_append]
  rfl

theorem plainLines_line (one : '\n' ∉ line) (rest : List Char) :
    plainLines (line ++ '\n' :: rest) = ⟨line, false⟩ :: plainLines rest := by
  rw [plainLines, textLines_line one]
  rfl

/-- A text begins with the character that its first line begins with. -/
theorem head?_plainLines {c : Char} (other : c ≠ '\n') (rest : List Char) :
    ∃ line, (plainLines (c :: rest)).head? = some ⟨c :: line, false⟩ := by
  rw [plainLines, textLines, if_neg other]
  split
  · exact ⟨[], rfl⟩
  · next line more _ => exact ⟨line, rfl⟩

end PlainLines

/-- Lines that all have text, with an empty one behind them. -/
theorem parted_lines {lines : List (List Char)} (some : lines ≠ [])
    (each : ∀ line ∈ lines, line ≠ []) : Parted ((lines ++ [[]]).map (⟨·, false⟩)) := by
  have texts : ∀ line ∈ lines.map (⟨·, false⟩ : List Char → PageLine), line.text ≠ [] :=
    List.forall_mem_map.mpr each
  rw [List.map_append]
  refine parted_of_ne_empty (by simpa using some) (fun line member same => ?_) fun line isLast => ?_
  · exact texts line member (same ▸ rfl)
  · exact texts line (List.mem_of_getLast? isLast)

/-- Settled text ends with an empty line. -/
theorem plainLines_settled {t : List Char} (settled : Settled t) :
    ∀ last ∈ (plainLines t).getLast?, last = .empty := by
  have behind {s : List Char} (ends : EndsLine s) :
      ∀ last ∈ (plainLines (s ++ ['\n'])).getLast?, last = .empty := by
    have lines : plainLines (s ++ ['\n']) = plainLines s ++ [.empty] := plainLines_append ends _
    intro last isLast
    rw [lines, List.getLast?_concat] at isLast
    exact (Option.some.inj isLast).symm
  rcases settled with newlines | ⟨front, rfl⟩
  · cases t using List.reverseRec with
    | nil => exact nofun
    | append_singleton s c =>
        obtain rfl : c = '\n' := newlines c (by simp)
        have feeds : Settled s := .inl fun d member => newlines d (List.mem_append_left _ member)
        exact behind feeds.endsLine
  · have split : front ++ ['\n', '\n'] = front ++ ['\n'] ++ ['\n'] := by simp
    rw [split]
    exact behind (.of_suffix (List.suffix_refl _))

/-- The empty line at the end of a page goes. -/
theorem endOnce_unlines {lines : List PageLine} (parted : Parted lines)
    (one : ∀ line ∈ lines, '\n' ∉ line.text) :
    endOnce (unlines lines) = unlines lines.dropLast := by
  rcases parted.ends with rfl | ⟨front, ⟨line, preformatted⟩, rfl, some⟩
  · rfl
  · cases line using List.reverseRec with
    | nil => exact absurd rfl some
    | append_singleton s c =>
        have other : c ≠ '\n' := by
          rintro rfl
          have member : ⟨s ++ ['\n'], preformatted⟩ ∈
              front ++ [⟨s ++ ['\n'], preformatted⟩, PageLine.empty] := by simp
          exact one _ member (List.mem_append_right s (List.mem_singleton_self _))
        simp [unlines, PageLine.empty, endOnce, dropEndBreaks, dropEndWhile, other]

theorem Spaced.dropLast {lines : List PageLine} (spaced : Spaced lines) :
    Spaced lines.dropLast := by
  cases lines with
  | nil => exact spaced
  | cons first rest => exact spaced_iff.mpr (spaced_iff.mp spaced).dropLast

/-! ## What a block writes -/

/-- If writing does not fail, it writes whole lines, and they are lines of blocks. -/
def Written.Parted (w : Written) : Prop :=
  w.error = none → EndsLine w.text ∧ Gemtext.Parted (plainLines w.text)

namespace Written

theorem Parted.nothing : nothing.Parted := fun _ => ⟨.nil, .nil⟩

theorem Parted.andThen {a b : Written} (ha : a.Parted) (hb : b.Parted) : (a.andThen b).Parted := by
  intro ok
  obtain ⟨okA, okB⟩ := andThen_error_eq_none.mp ok
  obtain ⟨endsA, linesA⟩ := ha okA
  obtain ⟨endsB, linesB⟩ := hb okB
  rw [andThen_text_of_ok okA, plainLines_append endsA]
  exact ⟨endsA.append endsB, linesA.append linesB⟩

theorem closed_parted : Closed Parted := ⟨.nothing, .andThen⟩

/-- One line and an empty one. -/
theorem Parted.line {line : List Char} (one : '\n' ∉ line) (some : line ≠ []) :
    Parted ⟨line ++ "\n\n".toList, none⟩ := by
  refine fun _ => ⟨.of_suffix (List.suffix_append ['\n'] ['\n']), ?_⟩
  have lines : plainLines (line ++ "\n\n".toList) = ([line] ++ [[]]).map (⟨·, false⟩) :=
    plainLines_line one ['\n']
  rw [lines]
  exact parted_lines (by simp) (by simpa using some)

theorem Parted.lineGroup {lines : List (List Char)}
    (each : ∀ line ∈ lines, '\n' ∉ line ∧ line ≠ []) : Parted ⟨lineGroup lines, none⟩ := by
  refine fun _ => ⟨lineGroup_endsLine lines, ?_⟩
  change Gemtext.Parted (plainLines (Gemtext.lineGroup lines))
  rw [Gemtext.lineGroup]
  split
  · exact .nil
  · next some =>
      have split : textLines (lines.flatMap (· ++ ['\n']) ++ ['\n']) = lines ++ [[]] :=
        textLines_lines (fun line member => (each line member).1) ['\n']
      rw [plainLines, split]
      exact parted_lines (by simpa using some) fun line member => (each line member).2

end Written

end Gemtext
