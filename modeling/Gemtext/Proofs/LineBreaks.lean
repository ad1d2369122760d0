import Gemtext.Text.Lines

/-! # What stands between line breaks

Line breaks are read in two ways. Where lines count, each CR LF, CR and LF ends one line. Where
lines are joined, a run of breaks counts once, however long it is. Both ways cut a text into pieces
that hold no break, and differ in what may stand between two pieces. A text is cut in one way only,
and what the library makes of it is its pieces with another text between them.
-/

namespace Gemtext.Text

/-! ## Pieces -/

/-- `ending` ends one line of a text that goes on with `rest`. -/
inductive EndsOneLine : (ending rest : List Char) → Prop where
  | crlf (rest : List Char) : EndsOneLine ['\r', '\n'] rest
  | feed (rest : List Char) : EndsOneLine ['\n'] rest
  | cr {rest : List Char} (alone : rest.head? ≠ some '\n') : EndsOneLine ['\r'] rest

/-- `run` is all the line breaks that stand together in front of `rest`. -/
structure IsBreakRun (run rest : List Char) : Prop where
  some : run ≠ []
  breaks : ∀ c ∈ run, isBreak c = true
  maximal : ∀ c ∈ rest.head?, isBreak c = false

/-- A text is cut into pieces without breaks by what `Between` allows in front of the rest of the
text. A text that begins or ends with a cut has an empty piece there. -/
inductive CutAt (Between : (gap rest : List Char) → Prop) :
    List Char → (pieces : List (List Char)) → Prop where
  | last {piece : List Char} (whole : ∀ c ∈ piece, isBreak c = false) :
      CutAt Between piece [piece]
  | next {piece gap rest : List Char} {pieces : List (List Char)}
      (whole : ∀ c ∈ piece, isBreak c = false) (between : Between gap rest)
      (behind : CutAt Between rest pieces) :
      CutAt Between (piece ++ gap ++ rest) (piece :: pieces)

/-- A function that puts `sep` for every gap and keeps all the rest. -/
structure Replaces (Between : (gap rest : List Char) → Prop) (sep : List Char)
    (f : List Char → List Char) : Prop where
  nil : f [] = []
  keeps {piece : List Char} (whole : ∀ c ∈ piece, isBreak c = false) (t : List Char) :
    f (piece ++ t) = piece ++ f t
  puts {gap rest : List Char} (between : Between gap rest) : f (gap ++ rest) = sep ++ f rest

/-- Wherever a break stands, a gap begins. -/
def AtEachBreak (Between : (gap rest : List Char) → Prop) : Prop :=
  ∀ c rest, isBreak c = true →
    ∃ gap behind, c :: rest = gap ++ behind ∧ gap ≠ [] ∧ Between gap behind

namespace CutAt

variable {Between : (gap rest : List Char) → Prop} {t : List Char} {pieces : List (List Char)}

theorem pieces_ne_nil (cut : CutAt Between t pieces) : pieces ≠ [] := by
  cases cut <;> exact List.cons_ne_nil _ _

theorem whole_of_mem (cut : CutAt Between t pieces) {piece : List Char} (member : piece ∈ pieces) :
    ∀ c ∈ piece, isBreak c = false := by
  induction cut with
  | last whole => exact List.mem_singleton.mp member ▸ whole
  | next whole _ _ ih =>
      rcases List.mem_cons.mp member with rfl | inside
      · exact whole
      · exact ih inside

theorem cons {c : Char} (plain : isBreak c = false) (cut : CutAt Between t pieces) :
    ∃ longer, CutAt Between (c :: t) longer := by
  cases cut with
  | last whole => exact ⟨_, .last (List.forall_mem_cons.mpr ⟨plain, whole⟩)⟩
  | next whole between behind =>
      exact ⟨_, .next (List.forall_mem_cons.mpr ⟨plain, whole⟩) between behind⟩

theorem exists_pieces (gaps : AtEachBreak Between) (t : List Char) :
    ∃ pieces, CutAt Between t pieces := by
  -- A gap may take several characters at once, so the length of the text carries the induction.
  induction length : t.length using Nat.strongRecOn generalizing t with
  | ind n ih =>
      subst length
      cases t with
      | nil => exact ⟨[[]], .last (by simp)⟩
      | cons c rest =>
          cases breaks : isBreak c with
          | false =>
              obtain ⟨pieces, cut⟩ := ih rest.length (by simp) rest rfl
              exact cut.cons breaks
          | true =>
              obtain ⟨gap, behind, same, some, between⟩ := gaps c rest breaks
              have shorter : behind.length < (c :: rest).length := by
                have positive := List.length_pos_iff.mpr some
                rw [same, List.length_append]
                omega
              obtain ⟨pieces, cut⟩ := ih behind.length shorter behind rfl
              have whole : CutAt Between ([] ++ gap ++ behind) ([] :: pieces) :=
                .next (by simp) between cut
              exact ⟨[] :: pieces, same ▸ whole⟩

/-- What replaces the gaps joins the pieces. -/
theorem eq_intercalate {sep : List Char} {f : List Char → List Char} (cut : CutAt Between t pieces)
    (replaces : Replaces Between sep f) : f t = sep.intercalate pieces := by
  induction cut with
  | @last piece whole => simpa [replaces.nil] using replaces.keeps whole []
  | @next piece gap rest pieces whole between behind ih =>
      obtain ⟨first, others, rfl⟩ := List.exists_cons_of_ne_nil behind.pieces_ne_nil
      calc f (piece ++ gap ++ rest) = piece ++ f (gap ++ rest) := by
            rw [List.append_assoc, replaces.keeps whole]
        _ = piece ++ sep ++ sep.intercalate (first :: others) := by
            rw [replaces.puts between, ih, List.append_assoc]
        _ = sep.intercalate (piece :: first :: others) := by rw [List.intercalate_cons_cons]

/-- The pieces are read off the text that has a line feed for every gap. -/
theorem pieces_eq {f : List Char → List Char} (cut : CutAt Between t pieces)
    (replaces : Replaces Between ['\n'] f) : pieces = (f t).splitOn '\n' := by
  rw [cut.eq_intercalate replaces, List.splitOn_intercalate '\n' _ cut.pieces_ne_nil]
  exact fun piece member => no_feed_of_no_break (cut.whole_of_mem member)

theorem iff_splitOn (gaps : AtEachBreak Between) {f : List Char → List Char}
    (replaces : Replaces Between ['\n'] f) :
    CutAt Between t pieces ↔ pieces = (f t).splitOn '\n' := by
  constructor
  · intro cut
    exact cut.pieces_eq replaces
  · rintro rfl
    obtain ⟨pieces, cut⟩ := exists_pieces gaps t
    exact cut.pieces_eq replaces ▸ cut

/-- A piece with a break as its first character would hold it. -/
theorem eq_nil_of_head?_breaks {piece rest : List Char} (whole : ∀ c ∈ piece, isBreak c = false)
    (breaks : ∀ c ∈ (piece ++ rest).head?, isBreak c = true) : piece = [] := by
  cases piece with
  | nil => rfl
  | cons c piece => exact Bool.noConfusion ((breaks c rfl).symm.trans (whole c List.mem_cons_self))

theorem head?_pieces (cut : CutAt Between t pieces) (breaks : ∀ c ∈ t.head?, isBreak c = true) :
    pieces.head? = some [] := by
  cases cut with
  | last whole =>
      have empty := @eq_nil_of_head?_breaks t [] whole (by simpa using breaks)
      rw [empty, List.head?_cons]
  | next whole =>
      have empty := eq_nil_of_head?_breaks whole (List.append_assoc .. ▸ breaks)
      rw [empty, List.head?_cons]

theorem getLast?_pieces (cut : CutAt Between t pieces)
    (breaks : ∀ c ∈ t.getLast?, isBreak c = true) : pieces.getLast? = some [] := by
  induction cut with
  | @last piece whole =>
      cases ends : piece.getLast? with
      | none => simp [List.getLast?_eq_none_iff.mp ends]
      | some c =>
          exact absurd (breaks c ends) (by simp [whole c (List.mem_of_getLast? ends)])
  | @next piece gap rest pieces whole between behind ih =>
      have last := ih fun c ends => breaks c (by simp [List.getLast?_append, Option.mem_def.mp ends])
      rw [List.getLast?_cons, last, Option.getD_some]

end CutAt

/-! ## The two readings -/

theorem endsOneLine_atEachBreak : AtEachBreak EndsOneLine := by
  intro c rest breaks
  rcases isBreak_iff.mp breaks with rfl | rfl
  · exact ⟨['\n'], rest, rfl, by simp, .feed rest⟩
  · by_cases follows : rest.head? = some '\n'
    · obtain ⟨behind, rfl⟩ := List.head?_eq_some_iff.mp follows
      exact ⟨['\r', '\n'], behind, rfl, by simp, .crlf behind⟩
    · exact ⟨['\r'], rest, rfl, by simp, .cr follows⟩

theorem isBreakRun_atEachBreak : AtEachBreak IsBreakRun := by
  intro c rest breaks
  have some : (c :: rest).takeWhile isBreak ≠ [] := by simp [breaks]
  refine ⟨_, _, List.takeWhile_append_dropWhile.symm, some, some, ?_, ?_⟩
  · exact List.all_eq_true.mp List.all_takeWhile
  · intro d first
    have other := List.head?_dropWhile_not isBreak (c :: rest)
    rwa [Option.mem_def.mp first] at other

theorem unixBreaks_replaces : Replaces EndsOneLine ['\n'] unixBreaks where
  nil := rfl
  keeps whole t := unixBreaks_append (fun member => Bool.noConfusion (whole _ member)) t
  puts between := by
    cases between with
    | crlf rest => rw [List.cons_append, List.cons_append, unixBreaks]; rfl
    | feed rest => simp [unixBreaks]
    | @cr rest alone =>
        rw [List.cons_append, unixBreaks]
        · rfl
        · rintro more rfl
          exact alone rfl

/-- In a run, further breaks write nothing. -/
theorem joinLinesFrom_run {run rest : List Char} (breaks : ∀ c ∈ run, isBreak c = true)
    (maximal : ∀ c ∈ rest.head?, isBreak c = false) (sep : List Char) :
    joinLinesFrom sep true (run ++ rest) = joinLines sep rest := by
  induction run with
  | nil =>
      cases rest with
      | nil => rfl
      | cons c rest => simp [joinLines, joinLinesFrom, maximal c rfl]
  | cons c run ih =>
      obtain ⟨first, others⟩ := List.forall_mem_cons.mp breaks
      rw [List.cons_append, joinLinesFrom, if_pos first, ih others]
      rfl

theorem joinLines_replaces (sep : List Char) : Replaces IsBreakRun sep (joinLines sep) where
  nil := rfl
  keeps whole t := joinLines_append whole sep t
  puts {gap rest} between := by
    obtain ⟨c, run, rfl⟩ := List.exists_cons_of_ne_nil between.some
    obtain ⟨first, others⟩ := List.forall_mem_cons.mp between.breaks
    rw [List.cons_append, joinLines, joinLinesFrom, if_pos first,
      joinLinesFrom_run others between.maximal]
    rfl

/-! ## What the two readings have in common -/

theorem return_notMem_unixBreaks (t : List Char) : '\r' ∉ unixBreaks t := by
  fun_induction unixBreaks t with
  | case1 => simp
  | case2 rest ih => simpa using ih
  | case3 rest _ ih => simpa using ih
  | case4 c rest _ other ih => simpa [Ne.symm (a := c) other] using ih

/-- A break that is brought to a line feed stays a break, so that runs stay runs. -/
theorem joinLinesFrom_unixBreaks (sep : List Char) (inRun : Bool) (t : List Char) :
    joinLinesFrom sep inRun (unixBreaks t) = joinLinesFrom sep inRun t := by
  fun_induction unixBreaks t generalizing inRun with
  | case1 => rfl
  | case2 rest ih => simp [joinLinesFrom, isBreak, ih]
  | case3 rest _ ih => simp [joinLinesFrom, isBreak, ih]
  | case4 c rest _ _ ih => simp only [joinLinesFrom, ih]

/-- Bringing line breaks to one form changes nothing for joined lines, and nothing when it is done
again. What it leaves between its line feeds are the lines of the text, each ended by CR LF, CR or
LF. Joined lines are the pieces between the maximal runs of breaks, with `sep` between them; where
`sep` holds no break, they hold none, and joining them again changes nothing. -/
theorem line_breaks_agree (t sep : List Char) :
    joinLines sep (unixBreaks t) = joinLines sep t ∧
    unixBreaks (unixBreaks t) = unixBreaks t ∧
    (∀ lines, CutAt EndsOneLine t lines ↔ lines = (unixBreaks t).splitOn '\n') ∧
    (∃ pieces, (∀ parts, CutAt IsBreakRun t parts ↔ parts = pieces) ∧
      joinLines sep t = sep.intercalate pieces ∧
      ((∀ c ∈ t.head?, isBreak c = true) → pieces.head? = some []) ∧
      ((∀ c ∈ t.getLast?, isBreak c = true) → pieces.getLast? = some [])) ∧
    ((∀ c ∈ sep, isBreak c = false) →
      joinLines sep (joinLines sep t) = joinLines sep t ∧
      ∀ c ∈ joinLines sep t, isBreak c = false) := by
  refine ⟨joinLinesFrom_unixBreaks sep false t, ?_, ?_, ?_, ?_⟩
  · exact unixBreaks_eq_self (return_notMem_unixBreaks t)
  · intro lines
    exact CutAt.iff_splitOn endsOneLine_atEachBreak unixBreaks_replaces
  · -- The pieces are the same for every `sep`; with a line feed for it they can be read off.
    have pieces parts : CutAt IsBreakRun t parts ↔ parts = (joinLines ['\n'] t).splitOn '\n' :=
      CutAt.iff_splitOn isBreakRun_atEachBreak (joinLines_replaces ['\n'])
    have cut := (pieces _).mpr rfl
    exact ⟨_, pieces, cut.eq_intercalate (joinLines_replaces sep), cut.head?_pieces,
      cut.getLast?_pieces⟩
  · intro none
    have oneLine := joinLines_no_break none t
    exact ⟨joinLines_eq_self oneLine sep, oneLine⟩

/-- Five line ends, of all three forms, make six lines; their three runs leave four pieces. -/
theorem line_breaks_agree_mixed :
    let t := "\ra\n\r\n\rb\r".toList
    CutAt EndsOneLine t [[], ['a'], [], [], ['b'], []] ∧
    (∃ pieces, CutAt IsBreakRun t pieces ∧ [' '].intercalate pieces = " a b ".toList ∧
      pieces.head? = some [] ∧ pieces.getLast? = some []) ∧
    (∀ c ∈ [' '], isBreak c = false) ∧
    joinLines [' '] (joinLines [' '] (unixBreaks t)) = " a b ".toList := by
  intro t
  obtain ⟨agree, -, lines, ⟨pieces, cuts, joined, first, last⟩, stays⟩ := line_breaks_agree t [' ']
  have written : joinLines [' '] t = " a b ".toList := by decide
  have blank : ∀ c ∈ [' '], isBreak c = false := by simp [isBreak]
  refine ⟨(lines _).mpr (by decide), ⟨pieces, (cuts pieces).mpr rfl, ?_, ?_, ?_⟩, blank, ?_⟩
  · rw [← joined, written]
  · exact first (by simp [t, isBreak])
  · exact last (by simp [t, isBreak])
  · rw [agree, (stays blank).1, written]

end Gemtext.Text
