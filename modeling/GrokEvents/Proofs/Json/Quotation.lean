/-
**Printed texts are read back.**

A text in its quotes is read back character by character, whatever follows its closing quote: an
ordinary character as it is, a few by a letter, and all others by their UTF-16 units. A character
beyond the basic plane is printed as two units, of which the first alone is no character.

* `readText?_unitEscape`: the escape of a unit is read as the unit.
* `readText?_escapedChar`: a character is read back, and what follows is read as without it.
* `readText?_printed`: a text is read back up to its closing quote.
-/

import Mathlib.Data.List.Basic
import GrokEvents.Json.Printer
import GrokEvents.Json.Reader
import GrokEvents.Proofs.Text.Numeral

namespace GrokEvents.Json

/-! ### Units -/

/-- The escape of a unit is a backslash, a letter and four hexadecimal digits of the unit. -/
theorem exists_unitEscape {unit : Nat} (fits : unit < 0x10000) : ∃ a b c d,
    unitEscape unit = ['\\', 'u', a, b, c, d] ∧ hexadecimal? [a, b, c, d] = some unit := by
  obtain ⟨length, digits, value⟩ := Text.hexadecimal_spec (by decide : 0 < 4) fits
  obtain ⟨a, others, written⟩ := List.exists_cons_of_length_eq_add_one length
  rw [written, List.length_cons] at length
  obtain ⟨b, c, d, rfl⟩ := List.length_eq_three.mp (Nat.succ.inj length)
  refine ⟨a, b, c, d, by rw [unitEscape, written], ?_⟩
  rw [written] at digits value
  rw [hexadecimal?, if_pos (List.all_eq_true.mpr digits), value]

/-- The escape of a unit is read as the unit: the first half of a pair is kept for the next unit,
any other unit makes a character. -/
theorem readText?_unitEscape (half : Option Nat) {unit : Nat} (fits : unit < 0x10000) (rest : Text) :
    readText? half (unitEscape unit ++ rest) =
      if half.isNone && isFirstHalf unit then readText? (some unit) rest
      else (ofUnit? half unit).bind fun char =>
        (readText? none rest).map fun (chars, left) => (char :: chars, left) := by
  obtain ⟨a, b, c, d, written, value⟩ := exists_unitEscape fits
  rw [written]
  show readText? half ('\\' :: 'u' :: a :: b :: c :: d :: rest) = _
  rw [readText?, value]
  dsimp only
  split
  · rfl
  · cases ofUnit? half unit with
    | none => rfl
    | some char => cases readText? none rest <;> rfl

/-! ### Characters -/

/-- Code points are below the surrogates or above them. -/
theorem toNat_spec (char : Char) :
    char.toNat < 0xD800 ∨ (0xDFFF < char.toNat ∧ char.toNat < 0x110000) :=
  char.valid

/-- A character is read back, and what follows is read as without it. -/
theorem readText?_escapedChar (char : Char) (rest : Text) :
    readText? none (escapedChar char ++ rest) =
      (readText? none rest).map fun (chars, left) => (char :: chars, left) := by
  have lettered (letter : Char) (other : letter ≠ 'u') (stands : escaped? letter = some char) :
      readText? none ('\\' :: letter :: rest) =
        (readText? none rest).map fun (chars, left) => (char :: chars, left) := by
    rw [readText?]
    · rw [stands]
      cases readText? none rest <;> rfl
    · intro a b c d more same
      exact absurd same other
  unfold escapedChar
  split_ifs with quote backslash lineFeed carriageReturn tab backspace formFeed printable basic
  · exact lettered '"' (by decide) (by rw [quote]; rfl)
  · exact lettered '\\' (by decide) (by rw [backslash]; rfl)
  · exact lettered 'n' (by decide) (by rw [lineFeed]; rfl)
  · exact lettered 'r' (by decide) (by rw [carriageReturn]; rfl)
  · exact lettered 't' (by decide) (by rw [tab]; rfl)
  · exact lettered 'b' (by decide) (by rw [backspace]; rfl)
  · exact lettered 'f' (by decide) (by rw [formFeed]; rfl)
  · -- The character stands for itself.
    have visible : ¬ char.toNat < 32 := by
      simp only [Bool.and_eq_true, decide_eq_true_eq] at printable
      omega
    rw [List.singleton_append, readText?, if_neg visible]
    · exact fun a b c d more same => absurd same backslash
    · exact fun letter more same => absurd same backslash
    · exact quote
  · -- One unit, which is half of no pair.
    have first : isFirstHalf char.toNat = false := by
      have := toNat_spec char
      simp only [isFirstHalf, Bool.and_eq_false_iff, decide_eq_false_iff_not]
      omega
    have second : isSecondHalf char.toNat = false := by
      have := toNat_spec char
      simp only [isSecondHalf, Bool.and_eq_false_iff, decide_eq_false_iff_not]
      omega
    have stands : ofUnit? none char.toNat = some char := by
      rw [ofUnit?, second, Char.ofNat_toNat]
      rfl
    rw [readText?_unitEscape none basic, first, stands]
    rfl
  · -- Two units, of which the first one waits for the second.
    have least := toNat_spec char
    have first : ((none : Option Nat).isNone &&
        isFirstHalf (0xD800 + (char.toNat - 0x10000) / 0x400)) = true := by
      simp only [Option.isNone_none, Bool.true_and, isFirstHalf, Bool.and_eq_true, decide_eq_true_eq]
      omega
    have second : isSecondHalf (0xDC00 + (char.toNat - 0x10000) % 0x400) = true := by
      simp only [isSecondHalf, Bool.and_eq_true, decide_eq_true_eq]
      omega
    have stands : ofUnit? (some (0xD800 + (char.toNat - 0x10000) / 0x400))
        (0xDC00 + (char.toNat - 0x10000) % 0x400) = some char := by
      have point : 0x10000 + (0xD800 + (char.toNat - 0x10000) / 0x400 - 0xD800) * 0x400 +
          (0xDC00 + (char.toNat - 0x10000) % 0x400 - 0xDC00) = char.toNat := by
        omega
      rw [ofUnit?, if_pos second, point, Char.ofNat_toNat]
    rw [List.append_assoc, readText?_unitEscape none (by omega), if_pos first,
      readText?_unitEscape _ (by omega), stands]
    rfl

/-- A text is read back up to its closing quote. -/
theorem readText?_printed (text rest : Text) :
    readText? none (text.flatMap escapedChar ++ '"' :: rest) = some (text, rest) := by
  induction text with
  | nil => exact readText?_quote rest
  | cons char text ih =>
    rw [List.flatMap_cons, List.append_assoc, readText?_escapedChar, ih]
    rfl

end GrokEvents.Json
