import Mathlib.Data.List.Basic
import Gemtext.Proofs.Written

/-! # Heading lines

A heading is written as a single line of number signs, a blank and its plain text, with an empty
line behind it. A clamp takes signs away, and one below zero takes them all. The title of the
metadata is written in the same form, but as it stands, so that a break in it begins a second line.
-/

namespace Gemtext

open Text

/-- A block that is one heading line, with this many number signs in front of a text, and an empty
    line behind it. -/
structure HeadingOf (signs : Nat) (t block : List Char) : Prop where
  oneLine : ∀ c ∈ t, isBreak c = false
  written : block = List.replicate signs '#' ++ [' '] ++ t ++ "\n\n".toList

/-! ## Levels -/

theorem clampLevel_le (clamp : Option Int) (level : Int) : clampLevel clamp level ≤ level := by
  unfold clampLevel
  split
  · exact Int.le_refl _
  · split
    · exact Int.le_refl _
    · exact Int.min_le_left ..

theorem clampLevel_positive {c : Int} (positive : 1 ≤ c) (level : Int) :
    clampLevel (some c) level = min level c :=
  if_neg (by omega)

/-- Of a positive level something is left unless the clamp is below zero. -/
theorem one_le_clampLevel {clamp : Option Int} {level : Int} (positive : 1 ≤ level) :
    1 ≤ clampLevel clamp level ↔ ∀ c, clamp = some c → 0 ≤ c := by
  cases clamp with
  | none => simpa [clampLevel] using positive
  | some c =>
      simp only [clampLevel, Option.some.injEq, forall_eq']
      split <;> omega

/-! ## Titles -/

namespace Metadata

/-- The part of the header that the title makes. -/
def titleBlock (m : Metadata) : List Char := ({ m with date := none } : Metadata).header

theorem titleBlock_prefix_header (m : Metadata) : m.titleBlock <+: m.header := by
  rw [titleBlock, header, header, List.append_nil]
  exact List.prefix_append _ _

/-- A title makes a heading line as long as it is on one line itself. -/
theorem heading_of_title {m : Metadata} :
    (∃ signs t, HeadingOf signs t m.titleBlock) ↔ ∀ c ∈ m.title, isBreak c = false := by
  have block : m.titleBlock = "# ".toList ++ m.title ++ "\n\n".toList := List.append_nil _
  constructor
  · rintro ⟨signs, t, oneLine, written⟩ c member
    have same := List.append_cancel_right (block.symm.trans written)
    have inside : c ∈ List.replicate signs '#' ++ [' '] ++ t :=
      same ▸ List.mem_append_right _ member
    simp only [List.mem_append, List.mem_replicate, List.mem_singleton] at inside
    rcases inside with (⟨_, rfl⟩ | rfl) | inside
    · rfl
    · rfl
    · exact oneLine c inside
  · exact fun oneLine => ⟨1, m.title, oneLine, block⟩

end Metadata

/-! ## Headings -/

/-- A heading fails as its plain text does. Otherwise it is written as one heading line of that
    text: with at most as many signs as its level says, with as many as a clamp above zero leaves,
    and with one at least unless the clamp is below zero. A document begins with its title, which is
    a heading line as long as no break stands in it. -/
theorem heading_on_one_line (w : Walk) {attrs : Attributes} {level : Int}
    (given : attrs.level = some level) (positive : 1 ≤ level) (children : List Node) :
    let n := Node.element .heading attrs children
    (∀ e, plainLine false n = .error e → w.write n = .fail e) ∧
    (∀ t, plainLine false n = .ok t → ∃ signs : Nat,
      (w.write n).error = none ∧ HeadingOf signs t (w.write n).text ∧ signs ≤ level ∧
        (∀ c, w.clamp = some c → 1 ≤ c → signs = min level c) ∧
        (1 ≤ signs ↔ ∀ c, w.clamp = some c → 0 ≤ c)) ∧
    ∀ m, w.metadata = some m →
      (∀ attrs children, m.titleBlock <+: (w.write (.element .document attrs children)).text) ∧
        ((∃ signs t, HeadingOf signs t m.titleBlock) ↔ ∀ c ∈ m.title, isBreak c = false) := by
  intro n
  have written : w.write n = .ofExcept ((plainLine false n).map fun t =>
      List.replicate (clampLevel w.clamp level).toNat '#' ++ [' '] ++ t ++ "\n\n".toList) := by
    have leveled : n.attrs.level.getD 0 = level := by simp [n, Node.attrs, given]
    change headingText w.clamp n = _
    rw [headingText, leveled, if_neg (by omega)]
  refine ⟨fun e failed => by rw [written, failed]; rfl, fun t composed => ?_, fun m known => ?_⟩
  · rw [composed] at written
    have most := clampLevel_le w.clamp level
    have least : 1 ≤ clampLevel w.clamp level ↔ ∀ c, w.clamp = some c → 0 ≤ c :=
      one_le_clampLevel positive
    refine ⟨_, by rw [written]; rfl, ⟨plainLine_no_break composed, by rw [written]; rfl⟩, by omega,
      fun c clamped above => ?_, ?_⟩
    · rw [clamped, clampLevel_positive above]
      omega
    · rw [← least]
      omega
  · refine ⟨fun attrs children => ?_, Metadata.heading_of_title⟩
    have begun : w.write (.element .document attrs children) =
        Written.andThen ⟨m.header, none⟩ (w.writeAll children) := by
      rw [Walk.write, known]
      rfl
    rw [begun]
    exact m.titleBlock_prefix_header.trans (Written.text_prefix_andThen ⟨m.header, none⟩ _)

/-- A heading of the third level with an empty span and a hard break, under a clamp of two, and a
    title. -/
theorem heading_on_one_line_clamped :
    let children : List Node := [.text "a\nb".toList, .element .emphasis {} [],
      .element .hardbreak {} [], .text ['c']]
    let heading : Node := .element .heading { level := some 3 } children
    let m : Metadata := { title := "c".toList }
    let w : Walk := ⟨{}, some m, some 2⟩
    plainLine false heading = .ok "a b c".toList ∧
      (∃ signs : Nat, (w.write heading).error = none ∧
        HeadingOf signs "a b c".toList (w.write heading).text ∧ (signs : Int) = min 3 2 ∧ 1 ≤ signs) ∧
      (w.write heading).text = "## a b c\n\n".toList ∧
      ∃ signs t, HeadingOf signs t m.titleBlock := by
  intro children heading m w
  have composed : plainLine false heading = .ok "a b c".toList := by decide +kernel
  have given : ({ level := some 3 } : Attributes).level = some 3 := rfl
  obtain ⟨_, each, title⟩ := heading_on_one_line w given (by decide) children
  obtain ⟨signs, ok, one, _, clamped, some⟩ := each _ composed
  exact ⟨composed, ⟨signs, ok, one, clamped 2 rfl (by decide), some.mpr (by simp [w])⟩,
    by decide +kernel, (title m rfl).2.mpr (by simp [m, isBreak])⟩

/-- A heading under a clamp below zero has no sign, and a title with a break in it is no heading
    line. -/
theorem heading_without_signs :
    let heading : Node := .element .heading { level := some 1 } [.text ['x']]
    let m : Metadata := { title := "a\nb".toList }
    (Walk.write ⟨{}, none, some (-1)⟩ heading = ⟨" x\n\n".toList, none⟩ ∧
      ¬∃ signs t, 1 ≤ signs ∧ HeadingOf signs t " x\n\n".toList) ∧
      m.titleBlock = "# a\nb\n\n".toList ∧ ¬∃ signs t, HeadingOf signs t "# a\nb\n\n".toList := by
  intro heading m
  refine ⟨⟨by decide +kernel, ?_⟩, rfl, ?_⟩
  · rintro ⟨signs, t, some, _, written⟩
    obtain ⟨k, rfl⟩ := Nat.exists_eq_add_of_le' some
    cases (List.cons.inj written).1
  · exact fun one => nomatch Metadata.heading_of_title (m := m) |>.mp one '\n' (by decide)

end Gemtext
