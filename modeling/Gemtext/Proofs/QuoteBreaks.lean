import Gemtext.Proofs.QuotedLines

/-! # Breaks of quotes

Where no raw HTML is read, a text that is composed inside of a quote differs from the one outside
of it in the breaks only: with a blank in the place of each break the two are one text. What a text
has of marks itself stays, since a quote puts its own mark between a line feed and what stands
behind it.
-/

namespace Gemtext

open Text

/-! ## Blanks in the place of breaks -/

/-- The text with a blank for each line feed. -/
def spaced (t : List Char) : List Char := t.map fun c => if c = '\n' then ' ' else c

/-- The text with a blank for each line feed that a quote mark follows. -/
def unquoted : List Char → List Char
  | [] => []
  | '\n' :: '>' :: ' ' :: rest => ' ' :: unquoted rest
  | c :: rest => c :: unquoted rest

theorem unquoted_cons {c : Char} (noFeed : c ≠ '\n') (rest : List Char) :
    unquoted (c :: rest) = c :: unquoted rest := by
  conv_lhs => unfold unquoted
  split <;> simp_all

/-- Each break is read by itself as long as it has its mark. -/
theorem unquoted_append {s : List Char} (marked : Marked s) (t : List Char) :
    unquoted (s ++ t) = unquoted s ++ unquoted t := by
  fun_induction unquoted s with
  | case1 => rfl
  | case2 rest ih =>
      have behind : Marked rest := marked.of_suffix ⟨"\n> ".toList, rfl⟩
      exact congrArg (' ' :: ·) (ih behind)
  | case3 c rest other ih =>
      have behind : Marked rest := marked.of_suffix ⟨[c], rfl⟩
      have noFeed : c ≠ '\n' := by
        rintro rfl
        obtain ⟨more, rfl⟩ := marked.feeds (u := []) rfl
        exact other more rfl rfl
      rw [List.cons_append, unquoted_cons noFeed, ih behind, List.cons_append]

theorem unquoted_eq_nil {t : List Char} : unquoted t = [] ↔ t = [] := by
  fun_cases unquoted t <;> simp

theorem unquoted_of_one_line {t : List Char} (one : ∀ c ∈ t, isBreak c = false) :
    unquoted t = t := by
  induction t with
  | nil => rfl
  | cons c rest ih =>
      obtain ⟨first, behind⟩ := List.forall_mem_cons.mp one
      have noFeed : c ≠ '\n' := by
        rintro rfl
        cases first
      rw [unquoted_cons noFeed, ih behind]

theorem spaced_append (s t : List Char) : spaced (s ++ t) = spaced s ++ spaced t :=
  List.map_append

theorem spaced_of_one_line {t : List Char} (one : ∀ c ∈ t, isBreak c = false) : spaced t = t := by
  refine (List.map_congr_left fun c member => if_neg ?_).trans (List.map_id t)
  rintro rfl
  cases one _ member

/-! ## Both styles -/

/-- Texts outside and inside of a quote that are the same with blanks for their breaks. -/
structure SpacedAlike (plain quoted : List Char) : Prop where
  marked : Marked quoted
  same : unquoted quoted = spaced plain

namespace SpacedAlike

variable {t t' q q' : List Char}

theorem of_one_line (one : ∀ c ∈ t, isBreak c = false) : SpacedAlike t t where
  marked := .of_one_line one
  same := by rw [unquoted_of_one_line one, spaced_of_one_line one]

theorem blank : SpacedAlike [' '] "\n> ".toList := ⟨.mark, rfl⟩

theorem feed : SpacedAlike ['\n'] "\n> ".toList := ⟨.mark, rfl⟩

theorem append (h : SpacedAlike t q) (h' : SpacedAlike t' q') :
    SpacedAlike (t ++ t') (q ++ q') where
  marked := h.marked.append h'.marked
  same := by rw [unquoted_append h.marked, spaced_append, h.same, h'.same]

theorem isEmpty (h : SpacedAlike t q) : t.isEmpty = q.isEmpty := by
  rw [Bool.eq_iff_iff, List.isEmpty_iff, List.isEmpty_iff, ← unquoted_eq_nil (t := q), h.same]
  exact List.map_eq_nil_iff.symm

end SpacedAlike

theorem spacedAlike_laws : QuoteLaws SpacedAlike where
  oneLine := .of_one_line
  separator := .blank
  hardBreak := .feed
  append := .append
  joined := by
    rintro _ _ ⟨pairs, each, rfl, rfl⟩
    -- The same parts are left out on both sides.
    have shown : someParts (pairs.map Prod.snd) =
        (pairs.filter fun p => !p.1.isEmpty).map Prod.snd := by
      rw [someParts, List.filter_map]
      refine congrArg _ (List.filter_congr fun p member => ?_)
      exact congrArg (!·) (each p member).isEmpty.symm
    rw [shown, someParts, List.filter_map]
    exact intercalate_related (.of_one_line (by simp)) .append .blank
      fun p member => each p (List.mem_of_mem_filter member)

/-! ## Trees without raw HTML -/

namespace Node

theorem of_mem_rawHtmlIn {inText : Bool} {ns : List Node} {raw : RawHtml}
    (member : raw ∈ rawHtmlIn inText ns) : ∃ c ∈ ns, raw ∈ c.rawHtml inText := by
  induction ns with
  | nil => cases member
  | cons c rest ih =>
      rcases List.mem_append.mp member with here | behind
      · refine ⟨c, List.mem_cons_self, ?_⟩
        split at here
        · cases here
        · exact here
      · obtain ⟨m, inside, found⟩ := ih behind
        exact ⟨m, List.mem_cons_of_mem c inside, found⟩

theorem raw_of_mem_rawHtml {inText : Bool} {n : Node} {raw : RawHtml}
    (member : raw ∈ n.rawHtml inText) : ∃ m ∈ n.filter (·.hasTag .raw), m.source = raw.source := by
  induction n using rec_strong generalizing inText with
  | text t => cases member
  | element tag attrs children ih =>
      rw [rawHtml] at member
      split at member
      · next isRaw =>
          subst isRaw
          split at member
          · obtain rfl := List.mem_singleton.mp member
            exact ⟨_, mem_filter.mpr ⟨[], rfl, rfl⟩, rfl⟩
          · cases member
      · split at member
        · obtain ⟨c, inside, found⟩ := of_mem_rawHtmlIn member
          obtain ⟨m, below, same⟩ := ih c inside found
          exact ⟨m, mem_filter_of_child inside below, same⟩
        · cases member

end Node

/-- Without raw HTML, composing fails inside of a quote where it fails outside of one, and otherwise
    the two texts are the same with blanks for their breaks. -/
theorem compose_spaced {n : Node} (noRaw : n.filter (·.hasTag .raw) = []) (markup inText : Bool) :
    Alike (fun plain quoted => unquoted quoted = spaced plain)
      (compose { markup := markup } inText n)
      (compose { quoted := true, markup := markup } inText n) := by
  have noHtml : ∀ raw, raw ∉ n.rawHtml inText := by
    intro raw inside
    obtain ⟨m, member, _⟩ := Node.raw_of_mem_rawHtml inside
    rw [noRaw] at member
    cases member
  have related : Alike SpacedAlike (compose (.plain markup) inText n)
      (compose (.inQuote markup) inText n) :=
    spacedAlike_laws.compose fun raw inside => absurd inside (noHtml raw)
  exact related.imp fun _ _ alike => alike.same

/-- A text that holds a mark behind a break, a hard break and code in a quote. -/
theorem compose_spaced_code :
    let paragraph : Node := .element .paragraph {}
      [.text "a\n> b".toList, .element .hardbreak {} [],
        .element .footnoteReference { noteid := some 1 } []]
    let code : Node := .element .literalBlock {} [.text "c\r\n\r\nd\n".toList]
    let quote : Node := .element .blockQuote {} [paragraph, code]
    quote.filter (·.hasTag .raw) = [] ∧
      Alike (fun plain quoted => unquoted quoted = spaced plain) (compose {} false quote)
        (compose { quoted := true } false quote) ∧
      compose { quoted := true } false quote = .ok "a\n> > b\n> [^1]\n> c\n> d".toList := by
  intro paragraph code quote
  have noRaw : quote.filter (·.hasTag .raw) = [] := by decide +kernel
  exact ⟨noRaw, compose_spaced noRaw true false, by decide +kernel⟩

end Gemtext
