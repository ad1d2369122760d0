/-! # Settings

What a rendering can be told: a clamp on the levels of headings, and how deep a document
may be nested.
-/

namespace Gemtext

structure Settings where
  /-- The most `#` signs that a heading gets. None, or zero, is no clamp. -/
  maxHeadingLevel : Option Int := none
  /-- The number of levels a document may be nested. -/
  maxNestingDepth : Int := 100
  deriving DecidableEq, Repr

/-- The number of `#` signs of a heading of this level. -/
def clampLevel (clamp : Option Int) (level : Int) : Int :=
  match clamp with
  | none => level
  | some c => if c = 0 then level else min level c

end Gemtext
