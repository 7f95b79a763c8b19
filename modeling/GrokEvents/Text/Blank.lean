/-
**White space.**

The twenty-nine characters that count as white space in a configuration and at the ends of a log
line: the ASCII blanks, the four information separators, and the space characters beyond ASCII.

* `trim_of_unblank`: a text without white space is not trimmed.
-/

import GrokEvents.Text.Ranges

namespace GrokEvents.Text

/-- The code points of white space. -/
def blankRanges : List (Nat × Nat) :=
  [(9, 13), (28, 32), (133, 133), (160, 160), (5760, 5760), (8192, 8202), (8232, 8233),
   (8239, 8239), (8287, 8287), (12288, 12288)]

/-- Whether a character is white space. -/
def isBlank (char : Char) : Bool :=
  inRanges blankRanges char.toNat

/-- Whether a character is one of the six ASCII blanks. -/
def isAsciiBlank (char : Char) : Bool :=
  (9 ≤ char.toNat && char.toNat ≤ 13) || char.toNat == 32

/-- The text less the white space before it. -/
def trimStart (text : Text) : Text :=
  text.dropWhile isBlank

/-- The text less the white space after it. -/
def trimEnd (text : Text) : Text :=
  (text.reverse.dropWhile isBlank).reverse

/-- The text less the white space around it. -/
def trim (text : Text) : Text :=
  trimEnd (trimStart text)

/-! ## Laws -/

theorem isBlank_of_visible {char : Char} (low : 33 ≤ char.toNat) (high : char.toNat ≤ 126) :
    isBlank char = false := by
  rw [← Bool.not_eq_true, isBlank, inRanges_iff]
  rintro ⟨range, member, least, most⟩
  simp only [blankRanges, List.mem_cons, List.not_mem_nil, or_false] at member
  rcases member with rfl | rfl | rfl | rfl | rfl | rfl | rfl | rfl | rfl | rfl <;>
    (simp only at least most; omega)

/-- A text without white space is not trimmed. -/
theorem trim_of_unblank {text : Text} (unblank : ∀ char ∈ text, isBlank char = false) :
    trim text = text := by
  have kept {part : Text} (within : ∀ char ∈ part, isBlank char = false) :
      part.dropWhile isBlank = part := by
    cases part with
    | nil => rfl
    | cons char rest =>
      exact List.dropWhile_cons_of_neg (Bool.eq_false_iff.mp (within char List.mem_cons_self))
  rw [trim, trimStart, kept unblank, trimEnd,
    kept fun char member => unblank char (List.mem_reverse.mp member), List.reverse_reverse]

end GrokEvents.Text
