/-
**Numerals are read back.**

The digits of a number in a base are read back to the number, whatever zeros fill them up to a width.

* `toNat_toDigits`: the digits of a number give the number.
* `hexadecimal_spec`: a number that fits a width is written in so many hexadecimal digits.
* `length_padded`, `toNat_lt`: in so many decimal digits go just the numbers below a power of ten.
* `exists_digitChar`: there are ten digits.
* `ofInt_eq`: an integer is its sign and the decimal digits of its size.
-/

import GrokEvents.Text.Blank
import Mathlib.Data.List.Induction
import Mathlib.Data.Nat.Digits.Defs

namespace GrokEvents.Text

/-! ### Digits in a base -/

theorem digitOf_digitChar : ∀ digit < 16, digitOf digit.digitChar = digit := by
  decide

theorem isHexDigit_digitChar : ∀ digit < 16, isHexDigit digit.digitChar = true := by
  decide

theorem toNat_concat (base : Nat) (digits : Text) (last : Char) :
    toNat base (digits ++ [last]) = toNat base digits * base + digitOf last :=
  List.foldl_append

/-- The digits of a number give the number. -/
theorem toNat_toDigits {base : Nat} (low : 1 < base) (high : base ≤ 16) (number : Nat) :
    toNat base (Nat.toDigits base number) = number := by
  induction number using Nat.strong_induction_on with
  | _ number ih =>
    rw [Nat.toDigits_eq_if low]
    split
    · rename_i small
      have single : toNat base [number.digitChar] = digitOf number.digitChar := by simp [toNat]
      rw [single, digitOf_digitChar number (by omega)]
    · rename_i large
      have shorter : number / base < number := Nat.div_lt_self (by omega) low
      have digit : number % base < base := Nat.mod_lt number (by omega)
      rw [toNat_concat, ih _ shorter, digitOf_digitChar _ (by omega), Nat.div_add_mod']

theorem isHexDigit_of_mem_toDigits {number : Nat} {char : Char}
    (member : char ∈ Nat.toDigits 16 number) : isHexDigit char = true := by
  induction number using Nat.strong_induction_on with
  | _ number ih =>
    rw [Nat.toDigits_eq_if (by decide)] at member
    split at member
    · rename_i small
      rw [List.mem_singleton.mp member]
      exact isHexDigit_digitChar number small
    · rename_i large
      rcases List.mem_append.mp member with before | last
      · exact ih _ (Nat.div_lt_self (by omega) (by decide)) before
      · rw [List.mem_singleton.mp last]
        exact isHexDigit_digitChar _ (Nat.mod_lt number (by decide))

/-- Only zero has a zero for its first digit. -/
theorem head?_toDigits_ne_zero {number : Nat} (positive : number ≠ 0) :
    (Nat.toDigits 10 number).head? ≠ some '0' := by
  induction number using Nat.strong_induction_on with
  | _ number ih =>
    rw [Nat.toDigits_eq_if (by decide)]
    split
    · intro zero
      exact positive (Nat.digitChar_eq_zero.mp (Option.some.inj zero))
    · rename_i large
      have inner := ih _ (Nat.div_lt_self (by omega) (by decide)) (by omega : number / 10 ≠ 0)
      obtain ⟨first, rest, split⟩ := List.exists_cons_of_ne_nil (Nat.toDigits_ne_nil (n := number / 10))
      rw [split] at inner ⊢
      exact inner

/-! ### Numerals of a width -/

theorem toNat_zeros_append (base count : Nat) (digits : Text) :
    toNat base (List.replicate count '0' ++ digits) = toNat base digits := by
  induction count with
  | zero => rfl
  | succ count ih =>
    have nothing : 0 * base + digitOf '0' = 0 := by
      rw [Nat.zero_mul]
      rfl
    rw [List.replicate_succ, List.cons_append, ← ih, toNat, List.foldl_cons, nothing, ← toNat]

/-- A number that fits a width is written in so many hexadecimal digits. -/
theorem hexadecimal_spec {width number : Nat} (wide : 0 < width) (fits : number < 16 ^ width) :
    (hexadecimal width number).length = width ∧
      (∀ char ∈ hexadecimal width number, isHexDigit char = true) ∧
        toNat 16 (hexadecimal width number) = number := by
  have short : (Nat.toDigits 16 number).length ≤ width :=
    (Nat.length_toDigits_le_iff (by decide) wide).mpr fits
  refine ⟨?_, ?_, ?_⟩
  · rw [hexadecimal, List.length_append, List.length_replicate]
    omega
  · intro char member
    rcases List.mem_append.mp member with zero | digit
    · rw [List.eq_of_mem_replicate zero]
      rfl
    · exact isHexDigit_of_mem_toDigits digit
  · rw [hexadecimal, toNat_zeros_append, toNat_toDigits (by decide) (by decide)]

theorem isDigit_of_mem_ofNat {number : Nat} {char : Char} (member : char ∈ ofNat number) :
    char.isDigit = true :=
  Nat.isDigit_of_mem_toDigits (by decide) (by decide) member

theorem isDigit_of_mem_padded {width number : Nat} {char : Char} (member : char ∈ padded width number) :
    char.isDigit = true := by
  rcases List.mem_append.mp member with zero | digit
  · rw [List.eq_of_mem_replicate zero]
    rfl
  · exact isDigit_of_mem_ofNat digit

/-- A number that fits a width is written in so many decimal digits. -/
theorem length_padded {width number : Nat} (wide : 0 < width) (fits : number < 10 ^ width) :
    (padded width number).length = width := by
  have short : (ofNat number).length ≤ width := (Nat.length_toDigits_le_iff (by decide) wide).mpr fits
  rw [padded, List.length_append, List.length_replicate]
  omega

/-- So many decimal digits write a number that fits them. -/
theorem toNat_lt {digits : Text} (all : ∀ char ∈ digits, char.isDigit = true) :
    toNat 10 digits < 10 ^ digits.length := by
  induction digits using List.reverseRecOn with
  | nil => decide
  | append_singleton digits last ih =>
    obtain ⟨others, single⟩ := List.forall_mem_append.mp all
    have isDigit := single last List.mem_cons_self
    have small : digitOf last < 10 := by
      rw [digitOf, if_pos isDigit]
      have high := (Bool.and_eq_true_iff.mp isDigit).2
      have : last.toNat ≤ 57 := of_decide_eq_true high
      omega
    have before := ih others
    rw [toNat_concat, List.length_append, List.length_singleton, pow_succ]
    omega

/-! ### Decimal digits -/

/-- There are ten digits. -/
theorem exists_digitChar {digit : Char} (isDigit : digit.isDigit = true) :
    ∃ value < 10, digit = value.digitChar := by
  obtain ⟨low, high⟩ := Bool.and_eq_true_iff.mp isDigit
  have low : 48 ≤ digit.toNat := of_decide_eq_true low
  have high : digit.toNat ≤ 57 := of_decide_eq_true high
  have ordered : ∀ value < 10, Char.ofNat (48 + value) = value.digitChar := by
    decide
  refine ⟨digit.toNat - 48, by omega, ?_⟩
  rw [← ordered _ (by omega), Nat.add_sub_cancel' low, Char.ofNat_toNat]

theorem ne_of_isDigit {digit mark : Char} (isDigit : digit.isDigit = true)
    (noDigit : mark.isDigit = false) :
    digit ≠ mark := by
  rintro rfl
  rw [isDigit] at noDigit
  cases noDigit

theorem isBlank_of_isDigit {digit : Char} (isDigit : digit.isDigit = true) : isBlank digit = false := by
  obtain ⟨value, small, rfl⟩ := exists_digitChar isDigit
  revert value
  decide

/-! ### Integers -/

theorem ofNat_ne_nil (number : Nat) : ofNat number ≠ [] :=
  Nat.toDigits_ne_nil

/-- A number is written with a digit at least. -/
theorem exists_ofNat (number : Nat) :
    ∃ digit more, ofNat number = digit :: more ∧ digit.isDigit = true := by
  obtain ⟨digit, more, split⟩ := List.exists_cons_of_ne_nil (ofNat_ne_nil number)
  exact ⟨digit, more, split, isDigit_of_mem_ofNat (split ▸ List.mem_cons_self)⟩

theorem toNat_ofNat (number : Nat) : toNat 10 (ofNat number) = number :=
  toNat_toDigits (by decide) (by decide) number

/-- An integer is its sign and the decimal digits of its size. -/
theorem ofInt_eq (number : Int) :
    ofInt number = (if number < 0 then ['-'] else []) ++ ofNat number.natAbs := by
  cases number with
  | ofNat size => rfl
  | negSucc size =>
    rw [if_pos (Int.negSucc_lt_zero size)]
    rfl

end GrokEvents.Text
