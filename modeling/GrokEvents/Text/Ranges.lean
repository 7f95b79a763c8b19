/-
**Sets of characters given by ranges of code points.**

The tables of this folder list a property of the Unicode character database (version 14.0) as
ranges of code points, first and last included, in increasing order.

* `inRanges_iff`: membership is being between the ends of some range.
-/

import GrokEvents.Text.Basic

namespace GrokEvents.Text

/-- Whether a code point lies in one of the ranges. -/
def inRanges (ranges : List (Nat × Nat)) (code : Nat) : Bool :=
  ranges.any fun range => range.1 ≤ code && code ≤ range.2

theorem inRanges_iff (ranges : List (Nat × Nat)) (code : Nat) :
    inRanges ranges code = true ↔ ∃ range ∈ ranges, range.1 ≤ code ∧ code ≤ range.2 := by
  simp [inRanges]

end GrokEvents.Text
