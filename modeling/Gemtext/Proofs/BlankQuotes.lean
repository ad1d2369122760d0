import Gemtext.Proofs.QuotedText

/-! # Blank children of quotes

A child of a quote is not written if its text is blank inside of the quote. Where the text is blank
outside of it, the marks behind its breaks are all that is left inside: a child that is made of
blanks and breaks is written as bare marks.
-/

namespace Gemtext

open Text

/-! ## Blank texts in both styles -/

/-- A text that is blank inside of a quote is the same text outside of it, and one that is blank
    outside of it shows nothing but marks inside. -/
structure BlankAlike (plain quoted : List Char) : Prop where
  same : isBlank quoted = true → quoted = plain
  marks : isBlank plain = true → ∀ c ∈ quoted, isWhite c = true ∨ c = '>'

namespace BlankAlike

variable {t t' q q' : List Char}

theorem refl (t : List Char) : BlankAlike t t where
  same _ := rfl
  marks blank c member := .inl (List.all_eq_true.mp blank c member)

theorem lineBreak (t : List Char) : BlankAlike t "\n> ".toList where
  same blank := by cases blank
  marks _ := by simp [isWhite]

theorem append (h : BlankAlike t q) (h' : BlankAlike t' q') : BlankAlike (t ++ t') (q ++ q') where
  same blank := by
    rw [isBlank_append, Bool.and_eq_true] at blank
    rw [h.same blank.1, h'.same blank.2]
  marks blank := by
    rw [isBlank_append, Bool.and_eq_true] at blank
    exact List.forall_mem_append.mpr ⟨h.marks blank.1, h'.marks blank.2⟩

theorem intercalate {sep : List Char} {parts : List (List Char × List Char)}
    (each : ∀ p ∈ parts, BlankAlike p.1 p.2) :
    BlankAlike (sep.intercalate (parts.map Prod.fst))
      ("\n> ".toList.intercalate (parts.map Prod.snd)) :=
  intercalate_related (refl []) append (lineBreak sep) each

theorem trim (h : BlankAlike t q) : BlankAlike (trim t) (trim q) where
  same blank := by rw [h.same (isBlank_trim q ▸ blank)]
  marks blank c member := h.marks (isBlank_trim t ▸ blank) c (trim_subset q member)

end BlankAlike

/-- Parts of a blank text are blank. -/
theorem isBlank_of_mem_intercalate {sep t : List Char} {parts : List (List Char)}
    (blank : isBlank (sep.intercalate parts) = true) (member : t ∈ parts) : isBlank t = true := by
  induction parts with
  | nil => cases member
  | cons u rest ih =>
      cases rest with
      | nil => simp_all
      | cons next rest =>
          rw [List.intercalate_cons_cons, isBlank_append, isBlank_append, Bool.and_eq_true,
            Bool.and_eq_true] at blank
          rcases List.mem_cons.mp member with rfl | behind
          · exact blank.1.1
          · exact ih blank.2 behind

theorem isBlank_of_someParts {sep t : List Char} {parts : List (List Char)}
    (blank : isBlank (sep.intercalate (someParts parts)) = true) (member : t ∈ parts) :
    isBlank t = true := by
  cases t with
  | nil => rfl
  | cons c t => exact isBlank_of_mem_intercalate blank (List.mem_filter.mpr ⟨member, rfl⟩)

theorem blankAlike_laws : QuoteLaws BlankAlike where
  oneLine _ := .refl _
  separator := .lineBreak _
  hardBreak := .lineBreak _
  append := .append
  joined := by
    rintro _ _ ⟨pairs, each, rfl, rfl⟩
    constructor
    · intro blank
      have same : pairs.map Prod.snd = pairs.map Prod.fst := List.map_congr_left fun p member =>
        (each p member).same (isBlank_of_someParts blank (List.mem_map_of_mem member))
      rw [same] at blank ⊢
      generalize someParts (pairs.map Prod.fst) = parts at blank ⊢
      -- A mark between two parts would show.
      rcases parts with _ | ⟨t, _ | ⟨next, rest⟩⟩
      · rfl
      · simp
      · simp [List.intercalate_cons_cons, isWhite] at blank
    · intro blank c member
      rcases of_mem_intercalate member with between | ⟨q, inside, found⟩
      · exact (BlankAlike.lineBreak []).marks rfl c between
      · obtain ⟨p, pair, rfl⟩ := List.mem_map.mp (List.mem_filter.mp inside).1
        exact (each p pair).marks (isBlank_of_someParts blank (List.mem_map_of_mem pair)) c found

theorem RawHtml.blankAlike (raw : RawHtml) (markup : Bool) :
    Alike BlankAlike (raw.text (.plain markup)) (raw.text (.inQuote markup)) := by
  refine raw.text_alike (fun {pieces} _ => ?_) markup
  have whole : BlankAlike (['\n'].intercalate pieces) ("\n> ".toList.intercalate pieces) := by
    have each : ∀ p ∈ pieces.map fun t => (t, t), BlankAlike p.1 p.2 := by simp [BlankAlike.refl]
    simpa [Function.comp_def] using BlankAlike.intercalate each
  unfold RawHtml.shown
  split
  · exact whole
  · exact whole.trim

/-! ## Children of quotes -/

/-- A child is left out of a quote where its text outside of the quote is blank and no mark comes
    into it. If marks come into a text that is blank otherwise, nothing but marks is written. -/
theorem quoteChunk_of_plain {child : Node} {t : List Char}
    (plain : compose {} false child = .ok t) :
    ∃ quoted, compose { quoted := true } false child = .ok quoted ∧
      quoteChunk child =
        .ok (if isBlank t = true ∧ quoted = t then [] else "> ".toList ++ quoted ++ "\n\n".toList) ∧
      (isBlank t = true → ∀ c ∈ quoted, isWhite c = true ∨ c = '>') := by
  have related := blankAlike_laws.compose fun raw (_ : raw ∈ child.rawHtml false) =>
    raw.blankAlike true
  rw [show compose (.plain true) false child = .ok t from plain] at related
  obtain ⟨quoted, composed, blank⟩ := related.exists_of_ok
  have blanks : isBlank quoted = true ↔ isBlank t = true ∧ quoted = t := by
    constructor
    · exact fun h => ⟨blank.same h ▸ h, blank.same h⟩
    · rintro ⟨h, rfl⟩
      exact h
  refine ⟨quoted, composed, ?_, blank.marks⟩
  rw [quoteChunk, show compose { quoted := true } false child = .ok quoted from composed]
  exact congrArg Except.ok (if_congr blanks rfl rfl)

theorem quoteChunk_of_plain_words :
    let child : Node := .element .paragraph {} [.text "a\nb".toList]
    compose {} false child = .ok "a b".toList ∧ isBlank "a b".toList = false ∧
      (∃ quoted, compose { quoted := true } false child = .ok quoted ∧
        quoteChunk child = .ok (if isBlank "a b".toList = true ∧ quoted = "a b".toList then []
          else "> ".toList ++ quoted ++ "\n\n".toList) ∧
        (isBlank "a b".toList = true → ∀ c ∈ quoted, isWhite c = true ∨ c = '>')) ∧
      quoteChunk child = .ok "> a\n> b\n\n".toList := by
  intro child
  have plain : compose {} false child = .ok "a b".toList := by decide +kernel
  exact ⟨plain, by decide +kernel, quoteChunk_of_plain plain, by decide +kernel⟩

/-- Breaks alone are blank outside of a quote, and are written as marks inside of one. -/
theorem breaks_alone_are_written :
    let tag : Node := .element .raw { format := some "html".toList } [.text "<br>".toList]
    let hard : Node := .element .paragraph {} [.element .hardbreak {} []]
    compose {} false tag = .ok [] ∧ quoteChunk tag = .ok "> >\n\n".toList ∧
      compose {} false hard = .ok ['\n'] ∧ isBlank ['\n'] = true ∧
      quoteChunk hard = .ok "> \n> \n\n".toList := by
  decide +kernel

end Gemtext
