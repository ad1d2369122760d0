import Gemtext.Convert
import Gemtext.Proofs.Containers
import Gemtext.Proofs.LinkPlaces
import Gemtext.Proofs.Prose

/-! # The lines of footnotes

A footnote definition is not written where it stands: its text comes to the page only in the lines
of the references to it, as their label. A label is composed, and lists are left out of what is
composed. Since no one else writes the lists of a definition, they are lost, and nothing else is.
-/

namespace Gemtext

open Text

theorem letters_ink (t : List Char) : letters (ink t) = letters t := by
  rw [letters, ink, List.filter_filter]
  refine List.filter_congr fun c _ => ?_
  cases white : isWhite c <;> simp [isLayout, white]

theorem letters_trim (t : List Char) : letters (trim t) = letters t := by
  rw [← letters_ink, ink_trim, letters_ink]

/-- The label of a definition of prose keeps the letters of the definition, except for those in the
    lists inside it. -/
theorem label_keeps (attrs : Attributes) {blocks : List Node}
    (prose : ∀ c ∈ blocks, c.isProse .block = true) (inText : Bool) :
    ∃ t, label inText (.element .footnote attrs blocks) = .ok t ∧
      Keeps t blocks (Node.leftOutIn blocks) := by
  obtain ⟨parts, composed, keeps⟩ :=
    composeParts_keeps fun c member => compose_keeps (prose c member) {} false
  have whole : compose {} inText (.element .footnote attrs blocks) =
      .ok ([] ++ joinParts {} blocks parts ++ []) := by
    rw [compose_container rfl, if_neg (fun both => nomatch both.1)]
    change (composeParts {} false blocks).map _ = _
    rw [composed]
    rfl
  refine ⟨_, by rw [label, whole]; rfl, keeps.congr ?_⟩
  rw [letters_trim, letters_joinLines rfl, List.append_nil, List.nil_append, letters_joinParts]

/-- The line of a reference to a definition. Only a number that is too long to be written has
    none. -/
theorem linkLine_note {d : Document} {reference : Node}
    (isNote : reference.hasTag .footnoteReference = true) {entry : Definition}
    (resolved : d.resolve reference = .ok entry) {number : Int}
    (numbered : reference.attrs.noteid = some number) {t : List Char}
    (labelled : label false entry.node = .ok t) :
    linkLine d reference = if IsWritable number then
      .ok (some ("[^".toList ++ decimal number ++ "]: ".toList ++ t)) else .error .longNumber := by
  rw [linkLine, if_pos isNote, resolved, numbered]
  simp only [labelled]
  split
  · next writable => rw [footnoteLine_eq_ok.mpr ⟨writable, rfl⟩]; rfl
  · next long => rw [footnoteLine_eq_error.mpr ⟨long, rfl⟩]; rfl

/-- A reference has no other line. -/
theorem Document.LineOf.eq_note {d : Document} {reference : Node} {line : List Char}
    (h : d.LineOf reference line) (isNote : reference.hasTag .footnoteReference = true)
    {entry : Definition} (resolved : d.resolve reference = .ok entry) {number : Int}
    (numbered : reference.attrs.noteid = some number) {t : List Char}
    (labelled : label false entry.node = .ok t) :
    line = "[^".toList ++ decimal number ++ "]: ".toList ++ t := by
  cases h with
  | note _ again numbered' labelled' =>
      obtain rfl := Except.ok.inj (resolved.symm.trans again)
      obtain rfl := Option.some.inj (numbered.symm.trans numbered')
      obtain rfl := Except.ok.inj (labelled.symm.trans labelled')
      rfl
  | destination given =>
      rw [Node.destination?_note isNote] at given
      cases given

/-- The line of a reference to a definition of prose, if its number can be written, is a single line
    behind the number, and a line of the page wherever a block leads to the reference. It has the
    letters of the definition, once each, except for those in the lists inside it; so it has all of
    them exactly if there are none in these lists. -/
theorem footnote_line_letters {d : Document} {reference : Node}
    (isNote : reference.hasTag .footnoteReference = true) {entry : Definition}
    (resolved : d.resolve reference = .ok entry) {number : Int}
    (numbered : reference.attrs.noteid = some number) {attrs : Attributes} {blocks : List Node}
    (defined : entry.node = .element .footnote attrs blocks)
    (prose : ∀ c ∈ blocks, c.isProse .block = true) :
    ∃ t, linkLine d reference = (if IsWritable number then
        .ok (some ("[^".toList ++ decimal number ++ "]: ".toList ++ t)) else .error .longNumber) ∧
      '\n' ∉ t ∧
      (letters t ++ letters (textsIn (Node.leftOutIn blocks))).Perm (letters (textsIn blocks)) ∧
      ((letters t).Perm (letters (textsIn blocks)) ↔
        letters (textsIn (Node.leftOutIn blocks)) = []) ∧
      ∀ settings metadata page, render d settings metadata = .ok page →
        ∀ c ∈ d.children, c.tagIs Tag.hoists = true → d.Reached c reference →
          HasLine page ("[^".toList ++ decimal number ++ "]: ".toList ++ t) := by
  obtain ⟨t, labelled, keeps⟩ := label_keeps attrs prose false
  rw [← defined] at labelled
  refine ⟨t, linkLine_note isNote resolved numbered labelled, label_one_line labelled, keeps,
    ?_, ?_⟩
  · constructor
    · intro all
      have lengths := keeps.length_eq
      rw [List.length_append, all.length_eq] at lengths
      exact List.length_eq_zero_iff.mp (by omega)
    · intro none
      rwa [Keeps, none, List.append_nil] at keeps
  · intro settings metadata page rendered c member hoists reached
    obtain ⟨line, own, has⟩ := hasLine_of_reached rendered member hoists reached
    rwa [own.eq_note isNote resolved numbered labelled] at has

/-- A definition with a list between two paragraphs. -/
theorem footnote_line_letters_list :
    let paragraph (t : Char) : Node := .element .paragraph {} [.text [t]]
    let list : Node := .element .enumeratedList {}
      [.element .listItem {} [paragraph 'b', .element .bulletList {} []]]
    let blocks : List Node := [paragraph 'a', list, paragraph 'c']
    let note : Node := .element .footnote { ids := [['n']], noteid := some 1 } blocks
    let mark : Node := .element .footnoteReference { refid := some ['n'], noteid := some 1 } []
    let block : Node := .element .paragraph {} [.text ['x'], mark]
    let d := Document.ofChildren [block, note]
    d.resolve mark = .ok ⟨[['n']], some [1], note⟩ ∧ (∀ c ∈ blocks, c.isProse .block = true) ∧
      render d {} none = .ok "x[^1]\n\n[^1]: a c\n".toList ∧
      HasLine "x[^1]\n\n[^1]: a c\n".toList "[^1]: a c".toList ∧
      (letters "a c".toList ++ letters (textsIn [list])).Perm (letters (textsIn blocks)) := by
  intro paragraph list blocks note mark block d
  have resolved : d.resolve mark = .ok ⟨[['n']], some [1], note⟩ :=
    Document.resolve_eq_ok.mpr ⟨['n'], rfl, by decide⟩
  have prose : ∀ c ∈ blocks, c.isProse .block = true := by decide
  have rendered : render d {} none = .ok "x[^1]\n\n[^1]: a c\n".toList := by
    clear resolved prose
    dsimp only [d, block, mark, note, blocks, list, paragraph]
    cbv
  have label : label false note = .ok "a c".toList := by
    dsimp only [note, blocks, list, paragraph]
    cbv
  have line := linkLine_note rfl resolved rfl label
  have reached : d.Reached block mark := .inside (show block.at? [1] = some mark from rfl) rfl
  have member : block ∈ d.children := by simp [d, Document.ofChildren]
  obtain ⟨t, line', _, keeps, _, lines⟩ := footnote_line_letters rfl resolved rfl rfl prose
  rw [if_pos (by decide)] at line line'
  have same := Option.some.inj (Except.ok.inj (line'.symm.trans line))
  obtain rfl : t = "a c".toList := List.append_cancel_left same
  exact ⟨resolved, prose, rendered, lines _ _ _ rendered block member rfl reached, keeps⟩

/-- A list in a definition is lost with all its letters. -/
theorem list_in_footnote_is_lost :
    let paragraph (t : Char) : Node := .element .paragraph {} [.text [t]]
    let list : Node := .element .bulletList {}
      [.element .listItem { term := some false } [paragraph 'b']]
    let blocks : List Node := [paragraph 'a', list]
    let id := "footnote-1".toList
    let note : Node := .element .footnote { ids := [id], noteid := some 1 } blocks
    let mark : Node := .element .footnoteReference { refid := some id, noteid := some 1 } []
    let d : Document :=
      ⟨[.element .paragraph {} [.text ['x'], mark], note], [⟨[id], some [1], note⟩]⟩
    Document.ofMarkdown? "x[^1]\n\n[^1]: a\n\n    * b".toList = .ok d ∧
      (∀ c ∈ blocks, c.isProse .block = true) ∧
      d.checkDepth ({} : Settings).maxNestingDepth = .ok () ∧
      render d {} none = .ok "x[^1]\n\n[^1]: a\n".toList ∧
      linkLine d mark = .ok (some "[^1]: a".toList) ∧
      ¬(letters "a".toList).Perm (letters (textsIn blocks)) := by
  intro paragraph list blocks id note mark d
  refine ⟨by decide +kernel, by decide, by decide, ?_, ?_, by decide⟩
  · dsimp only [d, note, mark, blocks, list, paragraph, id]
    cbv
  · dsimp only [d, note, mark, blocks, list, paragraph, id]
    cbv

end Gemtext
