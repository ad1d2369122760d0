import Mathlib.Data.Nat.Init
import Gemtext.Proofs.Preformatted
import Gemtext.Proofs.QuotedText

/-! # Lines of quotes

A quote is written as chunks of quote lines. Every break that composing brings in carries the mark
of the next line with it. Raw HTML may take the mark away: a line feed that is decoded from a
character reference has none, and where a block ends with a break, trimming cuts the mark in half.
-/

namespace Gemtext

open Text

/-! ## Marked texts -/

/-- A text that goes on behind each line feed with a quote mark. -/
structure Marked (t : List Char) : Prop where
  feeds : ∀ {u v}, t = u ++ '\n' :: v → "> ".toList <+: v
  noReturn : '\r' ∉ t

namespace Marked

variable {s t u : List Char}

theorem of_one_line (one : ∀ c ∈ t, isBreak c = false) : Marked t where
  feeds split := by
    have feed := one '\n' (by simp [split])
    cases feed
  noReturn member := by
    have feed := one '\r' member
    cases feed

theorem append (hs : Marked s) (ht : Marked t) : Marked (s ++ t) where
  feeds {u v} split := by
    rcases List.append_eq_append_iff.mp split with ⟨inner, rfl, behind⟩ | ⟨inner, front, behind⟩
    · exact ht.feeds behind
    · cases inner with
      | nil => exact ht.feeds (u := []) behind.symm
      | cons c inner =>
          obtain ⟨rfl, rfl⟩ := List.cons.inj behind
          exact (hs.feeds front).trans (List.prefix_append _ _)
  noReturn := by simp [hs.noReturn, ht.noReturn]

theorem of_suffix (h : Marked t) (suffix : s <:+ t) : Marked s where
  feeds := by
    rintro u v rfl
    obtain ⟨front, rfl⟩ := suffix
    exact h.feeds (List.append_assoc front u _).symm
  noReturn member := h.noReturn (suffix.subset member)

theorem mark : Marked "\n> ".toList where
  feeds {u v} split := by
    rcases u with _ | ⟨c, _ | ⟨d, _ | ⟨e, u⟩⟩⟩
    all_goals simp_all
  noReturn := by simp

theorem intercalate {parts : List (List Char)} (each : ∀ t ∈ parts, Marked t) :
    Marked ("\n> ".toList.intercalate parts) := by
  induction parts with
  | nil => exact of_one_line (by simp)
  | cons t rest ih =>
      obtain ⟨first, behind⟩ := List.forall_mem_cons.mp each
      cases rest with
      | nil => simpa using first
      | cons next rest =>
          rw [List.intercalate_cons_cons]
          exact (first.append mark).append (ih behind)

/-- Trimming keeps the marks, unless it cuts the last one. -/
theorem trim (h : Marked t) (whole : ¬ "\n>".toList <:+ trim t) : Marked (trim t) := by
  have inner := h.of_suffix (List.dropWhile_suffix isWhite)
  obtain ⟨blank, split⟩ := trim_isPrefix t
  constructor
  · intro u v same
    have behind : "> ".toList <+: v ++ blank :=
      inner.feeds (u := u) (by rw [← split, same]; simp)
    rcases v with _ | ⟨c, _ | ⟨d, v⟩⟩
    · have white := trim_ends same
      cases white
    · obtain ⟨rfl, _⟩ := List.cons_prefix_cons.mp behind
      exact absurd ⟨u, same.symm⟩ whole
    · obtain ⟨rfl, rest⟩ := List.cons_prefix_cons.mp behind
      obtain ⟨rfl, _⟩ := List.cons_prefix_cons.mp rest
      exact ⟨v, rfl⟩
  · exact fun member => inner.noReturn (split ▸ List.mem_append_left blank member)

/-- A quote mark in front of a text stands in its first line. -/
theorem mark_prefix_line {line rest : List Char} (begins : "> ".toList <+: line ++ '\n' :: rest) :
    "> ".toList <+: line := by
  rcases line with _ | ⟨c, _ | ⟨d, line⟩⟩
  · cases (List.cons_prefix_cons.mp begins).1
  · cases (List.cons_prefix_cons.mp (List.cons_prefix_cons.mp begins).2).1
  · obtain ⟨rfl, behind⟩ := List.cons_prefix_cons.mp begins
    obtain ⟨rfl, _⟩ := List.cons_prefix_cons.mp behind
    exact ⟨line, rfl⟩

/-- The lines of a chunk of quote lines. -/
theorem textLines (h : Marked t) (begins : "> ".toList <+: t) :
    ∃ lines, textLines (t ++ "\n\n".toList) = lines ++ [[]] ∧
      ∀ line ∈ lines, "> ".toList <+: line := by
  induction length : t.length using Nat.strong_induction_on generalizing t with
  | _ length ih =>
      by_cases feed : '\n' ∈ t
      · obtain ⟨line, rest, rfl, one⟩ := List.eq_append_cons_of_mem feed
        obtain ⟨lines, same, each⟩ := ih rest.length (by simp [← length]; omega)
          (h.of_suffix ⟨line ++ ['\n'], by simp⟩) (h.feeds rfl) rfl
        refine ⟨line :: lines, ?_, List.forall_mem_cons.mpr ⟨?_, each⟩⟩
        · rw [List.append_assoc, List.cons_append, textLines_line one, same, List.cons_append]
        · exact mark_prefix_line begins
      · refine ⟨[t], ?_, List.forall_mem_singleton.mpr begins⟩
        exact textLines_line feed ['\n']

end Marked

/-! ## Composed quotes -/

/-- Raw HTML with breaks of `br` only, which as a block does not end with one. -/
structure RawHtml.KeepsMarks (raw : RawHtml) : Prop where
  oneLine : ∀ {t}, Html.plainText [] raw.source = .ok t → ∀ c ∈ t, isBreak c = false
  whole : raw.inText = false → ∀ {t}, raw.text { quoted := true } = .ok t → ¬ "\n>".toList <:+ t

theorem all_toOption_iff {ε : Type} {r : Except ε (List Char)} {p : List Char → Bool} :
    r.toOption.all p = true ↔ ∀ {t}, r = .ok t → p t = true := by
  cases r <;> simp [Except.toOption]

instance (raw : RawHtml) : Decidable raw.KeepsMarks :=
  decidable_of_iff
    ((Html.plainText [] raw.source).toOption.all (·.all (!isBreak ·)) = true ∧
      (raw.inText = false →
        (raw.text { quoted := true }).toOption.all
          (fun t => !decide ("\n>".toList <:+ t)) = true)) <| by
    rw [all_toOption_iff, all_toOption_iff]
    simp only [List.all_eq_true, Bool.not_eq_true', decide_eq_false_iff_not]
    exact ⟨fun h => ⟨h.1, h.2⟩, fun h => ⟨h.oneLine, h.whole⟩⟩

theorem RawHtml.KeepsMarks.marked {raw : RawHtml} (keeps : raw.KeepsMarks) :
    Alike (fun _ q => Marked q) (raw.text (.plain true)) (raw.text (.inQuote true)) := by
  refine raw.text_alike (fun {pieces} made => ?_) true
  have each : ∀ t ∈ pieces, Marked t := fun t member => .of_one_line fun c inside => by
    refine keeps.oneLine (made []) c ?_
    rw [intercalate_nil]
    exact List.mem_flatten.mpr ⟨t, member, inside⟩
  have whole := Marked.intercalate each
  cases place : raw.inText with
  | true => simpa [RawHtml.shown, place] using whole
  | false =>
      have shown : raw.text { quoted := true } =
          .ok (trim ("\n> ".toList.intercalate pieces)) := by
        rw [RawHtml.text_eq, show Style.hardBreak { quoted := true } = "\n> ".toList from rfl, made]
        simp [place]
      simpa [RawHtml.shown, place] using whole.trim (keeps.whole place shown)

theorem marked_laws : QuoteLaws fun _ q => Marked q where
  oneLine := .of_one_line
  separator := .mark
  hardBreak := .mark
  append := .append
  joined := by
    rintro _ _ ⟨pairs, each, rfl, rfl⟩
    refine .intercalate fun t member => ?_
    obtain ⟨p, inside, rfl⟩ := List.mem_map.mp (List.mem_filter.mp member).1
    exact each p inside

/-- Quote lines with an empty line behind them. -/
def QuoteLines (chunk : List Char) : Prop :=
  '\r' ∉ chunk ∧ ∃ lines, textLines chunk = lines ++ [[]] ∧ ∀ line ∈ lines, "> ".toList <+: line

theorem quoteChunk_lines {child : Node} (raws : ∀ raw ∈ child.rawHtml false, raw.KeepsMarks)
    {chunk : List Char} (written : quoteChunk child = .ok chunk) (some : chunk ≠ []) :
    QuoteLines chunk := by
  obtain ⟨t, composed, rfl⟩ := map_eq_ok.mp written
  have related := marked_laws.compose fun raw inside => (raws raw inside).marked
  rw [show compose (.inQuote true) false child = .ok t from composed] at related
  obtain ⟨_, _, marked⟩ := related.exists_of_ok_right
  have line : Marked ("> ".toList ++ t) := (Marked.of_one_line (by simp [isBreak])).append marked
  have shows : isBlank t = false := by
    rw [← Bool.not_eq_true]
    exact fun blank => some (if_pos blank)
  rw [shows, if_neg (by simp)]
  exact ⟨by simpa using line.noReturn, line.textLines (List.prefix_append _ _)⟩

/-- A quote is written as the chunks of its children up to the first one that fails. Each chunk is
    empty or holds quote lines, as long as the raw HTML in the children keeps the marks. -/
theorem quote_lines {children : List Node}
    (raws : ∀ c ∈ children, ∀ raw ∈ c.rawHtml false, raw.KeepsMarks) :
    ∃ (written rest : List Node) (chunks : List (List Char)), children = written ++ rest ∧
      List.Forall₂ (fun c chunk => quoteChunk c = .ok chunk) written chunks ∧
      (∀ c ∈ rest.head?, ∃ e, quoteChunk c = .error e) ∧
      (quoteChunks children).text = chunks.flatten ∧
      ∀ chunk ∈ chunks, chunk = [] ∨ QuoteLines chunk := by
  induction children with
  | nil => exact ⟨[], [], [], rfl, .nil, by simp, rfl, by simp⟩
  | cons c others ih =>
      obtain ⟨first, behind⟩ := List.forall_mem_cons.mp raws
      cases result : quoteChunk c with
      | error e =>
          refine ⟨[], c :: others, [], rfl, .nil, ?_, ?_, by simp⟩
          · rintro _ ⟨rfl⟩
            exact ⟨e, result⟩
          · rw [quoteChunks, result]
            rfl
      | ok chunk =>
          obtain ⟨written, rest, chunks, rfl, each, fails, same, lines⟩ := ih behind
          refine ⟨c :: written, rest, chunk :: chunks, rfl, .cons result each, fails, ?_, ?_⟩
          · rw [quoteChunks, result, Written.andThen_text_of_ok rfl, same]
            rfl
          · refine List.forall_mem_cons.mpr ⟨?_, lines⟩
            exact or_iff_not_imp_left.mpr (quoteChunk_lines first result)

/-- Texts, breaks and code on several lines, in a quote and in a quote inside of it. -/
theorem quote_lines_form :
    let element (tag : Tag) (children : List Node) : Node := .element tag {} children
    let html (t : String) : Node :=
      .element .raw { format := some "html".toList } [.text t.toList]
    let text (t : String) : Node := .text t.toList
    let children := [element .paragraph [text "a\nb", element .hardbreak [], html "<br>"],
      element .blockQuote [element .paragraph [text "c"], element .literalBlock [text "d\n\ne\n"]],
      html "<p>f<br>g</p>"]
    (∀ c ∈ children, ∀ raw ∈ c.rawHtml false, raw.KeepsMarks) ∧
      (∃ (written rest : List Node) (chunks : List (List Char)), children = written ++ rest ∧
        List.Forall₂ (fun c chunk => quoteChunk c = .ok chunk) written chunks ∧
        (∀ c ∈ rest.head?, ∃ e, quoteChunk c = .error e) ∧
        (quoteChunks children).text = chunks.flatten ∧
        ∀ chunk ∈ chunks, chunk = [] ∨ QuoteLines chunk) ∧
      (quoteChunks children).text =
        "> a\n> b\n> \n> \n\n> c\n> d\n> e\n\n> f\n> g\n\n".toList := by
  intro element html text children
  have raws : ∀ c ∈ children, ∀ raw ∈ c.rawHtml false, raw.KeepsMarks := by decide +kernel
  exact ⟨raws, quote_lines raws, by decide +kernel⟩

/-- A decoded line feed begins a line without a mark, and the mark of a last line is cut. -/
theorem unmarked_lines :
    let html (t : String) : Node :=
      .element .raw { format := some "html".toList } [.text t.toList]
    quoteChunk (html "<div>a&#10;b</div>") = .ok "> a\nb\n\n".toList ∧
      ¬ QuoteLines "> a\nb\n\n".toList ∧
      quoteChunk (html "<div>a<br></div>") = .ok "> a\n>\n\n".toList ∧
      ¬ QuoteLines "> a\n>\n\n".toList := by
  have second (line : String) (bare : ¬ "> ".toList <+: line.toList) {chunk : String}
      (split : textLines chunk.toList = ["> a".toList, line.toList, []]) :
      ¬ QuoteLines chunk.toList := by
    rintro ⟨_, lines, same, each⟩
    rw [split] at same
    obtain rfl : lines = ["> a".toList, line.toList] :=
      List.append_cancel_right (same.symm.trans rfl)
    exact bare (each _ (by simp))
  exact ⟨by decide +kernel, second "b" (by decide) (by decide), by decide +kernel,
    second ">" (by decide) (by decide)⟩

end Gemtext
