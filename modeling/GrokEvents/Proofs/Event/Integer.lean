/-
**Integers are read exactly.**

A text is an integer where it is, between white space, a sign that may be missing and one to twenty
decimal digits. The general reader of integers takes each of these, so that it never refuses what is
handed on to it.

* `forall_mem_signed`: what holds of digits and of both signs holds of each character of a sign and
  digits.
* `integerValue?_signed`: the general reader takes a sign and digits.
* `toInt_signed`, `toInt_of_not_signed`: what comes of a sign and digits, and of any other text.
* `toInt_exact`: the integers that are read, and the notice that is never left.
-/

import GrokEvents.Event.Leaf
import GrokEvents.Proofs.Text.Lines
import GrokEvents.Proofs.Text.Numeral
import Mathlib.Data.Nat.Digits.Lemmas

namespace GrokEvents

/-! ### Signs and digits -/

namespace Text

theorem splitOn_of_digits {digits : Text} (all : ∀ digit ∈ digits, digit.isDigit = true) :
    splitOn '_' digits = [digits] := by
  induction digits with
  | nil => rfl
  | cons digit digits ih =>
    obtain ⟨isDigit, all⟩ := List.forall_mem_cons.mp all
    exact splitOn_cons_of_ne (ne_of_isDigit isDigit rfl) (ih all)

/-- The last character of a trimmed text is not white space. -/
theorem isBlank_of_getLast?_trim {text : Text} {char : Char} (last : (trim text).getLast? = some char) :
    isBlank char = false := by
  rw [trim, trimEnd, List.getLast?_reverse] at last
  have stops := List.head?_dropWhile_not isBlank (trimStart text).reverse
  rw [last] at stops
  exact stops

end Text

namespace Number

open Text

/-- What may stand before the digits of an integer. -/
def signs : List Text :=
  [[], ['+'], ['-']]

theorem mem_signs {sign : Text} : sign ∈ signs ↔ sign = [] ∨ sign = ['+'] ∨ sign = ['-'] := by
  simp [signs]

/-- A size with a sign. -/
def signed (sign : Text) (size : Nat) : Int :=
  if sign = ['-'] then -size else size

variable {sign digits : Text}

/-- What is written in digits has no mark between them. -/
theorem joined?_of_digits (nonempty : digits ≠ []) (all : ∀ digit ∈ digits, digit.isDigit = true) :
    joined? digits = some digits := by
  obtain ⟨digit, others, rfl⟩ := List.exists_cons_of_ne_nil nonempty
  rw [joined?, splitOn_of_digits all]
  exact congrArg some (List.append_nil _)

/-- What holds of digits and of both signs holds of each character of a sign and digits. -/
theorem forall_mem_signed {test : Char → Prop} (digit : ∀ value < 10, test value.digitChar)
    (plus : test '+')
    (minus : test '-') (isSign : sign ∈ signs) (all : ∀ digit ∈ digits, digit.isDigit = true) :
    ∀ char ∈ sign ++ digits, test char := by
  refine List.forall_mem_append.mpr ⟨?_, fun char member => ?_⟩
  · rcases mem_signs.mp isSign with rfl | rfl | rfl
    · exact nofun
    · exact List.forall_mem_singleton.mpr plus
    · exact List.forall_mem_singleton.mpr minus
  · obtain ⟨value, small, rfl⟩ := exists_digitChar (all char member)
    exact digit value small

/-- Signs and ASCII digits are plain as they are. -/
theorem plainDigits_signed (isSign : sign ∈ signs) (all : ∀ digit ∈ digits, digit.isDigit = true) :
    plainDigits (sign ++ digits) = sign ++ digits := by
  rw [plainDigits]
  refine (List.map_congr_left ?_).trans (List.map_id _)
  exact forall_mem_signed (by decide) (by decide) (by decide) isSign all

theorem isDigitOf_of_isDigit {digit : Char} (isDigit : digit.isDigit = true) :
    isDigitOf 10 digit = true := by
  obtain ⟨value, small, rfl⟩ := exists_digitChar isDigit
  revert value
  decide

/-- Before a digit, a sign is told from what it stands before. -/
theorem splitSign_signed (isSign : sign ∈ signs) (nonempty : digits ≠ [])
    (all : ∀ digit ∈ digits, digit.isDigit = true) :
    splitSign (sign ++ digits) = (decide (sign = ['-']), digits) := by
  obtain ⟨digit, others, rfl⟩ := List.exists_cons_of_ne_nil nonempty
  have isDigit := all digit List.mem_cons_self
  rcases mem_signs.mp isSign with rfl | rfl | rfl
  · rw [List.nil_append]
    unfold splitSign
    split
    · rename_i same
      exact absurd (List.cons.inj same).1 (ne_of_isDigit isDigit rfl)
    · rename_i same
      exact absurd (List.cons.inj same).1 (ne_of_isDigit isDigit rfl)
    · rfl
  · rfl
  · rfl

/-- A sign and digits have no white space around them. -/
theorem trim_signed (isSign : sign ∈ signs) (all : ∀ digit ∈ digits, digit.isDigit = true) :
    trim (sign ++ digits) = sign ++ digits :=
  trim_of_unblank (forall_mem_signed (by decide) (by decide) (by decide) isSign all)

/-- **The general reader takes a sign and digits**, if there are not too many for it. -/
theorem integerValue?_signed (isSign : sign ∈ signs) (nonempty : digits ≠ [])
    (all : ∀ digit ∈ digits, digit.isDigit = true) (few : digits.length ≤ digitLimit) :
    integerValue? (sign ++ digits) = some (signed sign (toNat 10 digits)) := by
  have unmarked : afterMark 10 digits = digits := by
    unfold afterMark
    exact if_pos rfl
  have inBase : digits.all (isDigitOf 10) = true :=
    List.all_eq_true.mpr fun digit member => isDigitOf_of_isDigit (all digit member)
  have read : integerDigits? 10 (sign ++ digits) = some (decide (sign = ['-']), digits) := by
    rw [integerDigits?, trim_signed isSign all, plainDigits_signed isSign all,
      splitSign_signed isSign nonempty all]
    dsimp only
    rw [unmarked, joined?_of_digits nonempty all]
    dsimp only
    rw [if_pos inBase]
  rw [integerValue?, read]
  dsimp only
  rw [if_neg (Nat.not_lt.mpr few), signed]
  simp only [decide_eq_true_eq]

end Number

/-! ### Reading -/

namespace Event

open Text
open Number (signs mem_signs signed)

variable {text sign digits : Text}

/-- A text that is a sign and digits. -/
def IsSigned (text : Text) : Prop :=
  ∃ sign ∈ signs, ∃ digits, text = sign ++ digits ∧ digits ≠ [] ∧ ∀ digit ∈ digits, digit.isDigit = true

/-- Where no line break ends a text, it is a numeral if it is a sign and digits. -/
theorem isNumeral_iff (ends : text.getLast? ≠ some '\n') : isNumeral text = true ↔ IsSigned text := by
  have judged (digits : Text) : (!digits.isEmpty && digits.all Char.isDigit) = true ↔
      digits ≠ [] ∧ ∀ digit ∈ digits, digit.isDigit = true := by
    simp
  unfold isNumeral
  rw [if_neg ends, judged]
  constructor
  · intro numeral
    split at numeral
    · exact ⟨['+'], by decide, _, rfl, numeral⟩
    · exact ⟨['-'], by decide, _, rfl, numeral⟩
    · exact ⟨[], by decide, _, rfl, numeral⟩
  · rintro ⟨sign, isSign, digits, rfl, nonempty, all⟩
    rcases mem_signs.mp isSign with rfl | rfl | rfl
    · obtain ⟨digit, others, rfl⟩ := List.exists_cons_of_ne_nil nonempty
      have isDigit := all digit List.mem_cons_self
      rw [List.nil_append]
      split
      · rename_i same
        exact absurd (List.cons.inj same).1 (ne_of_isDigit isDigit rfl)
      · rename_i same
        exact absurd (List.cons.inj same).1 (ne_of_isDigit isDigit rfl)
      · exact ⟨nonempty, all⟩
    · exact ⟨nonempty, all⟩
    · exact ⟨nonempty, all⟩

theorem unsignedPart_of_digits (all : ∀ digit ∈ digits, digit.isDigit = true) :
    unsignedPart digits = digits := by
  unfold unsignedPart
  split
  · cases all '+' List.mem_cons_self
  · cases all '-' List.mem_cons_self
  · rfl

theorem unsignedPart_signed (isSign : sign ∈ signs) (all : ∀ digit ∈ digits, digit.isDigit = true) :
    unsignedPart (sign ++ digits) = digits := by
  rcases mem_signs.mp isSign with rfl | rfl | rfl <;> exact unsignedPart_of_digits all

/-- What comes of a sign and digits. -/
theorem toInt_signed (isSign : sign ∈ signs) (nonempty : digits ≠ [])
    (all : ∀ digit ∈ digits, digit.isDigit = true) (split : trim text = sign ++ digits) :
    toInt text =
      if digits.length ≤ digitLimit then ⟨some (signed sign (toNat 10 digits)), []⟩
      else ⟨none, [.tooManyDigits]⟩ := by
  have numeral : isNumeral (trim text) = true :=
    (isNumeral_iff fun last => absurd (isBlank_of_getLast?_trim last) (by decide)).mpr
      ⟨sign, isSign, digits, split, nonempty, all⟩
  rw [toInt, numeral, split, unsignedPart_signed isSign all, if_neg (by decide)]
  by_cases few : digits.length ≤ digitLimit
  · have fewer : digits.length ≤ Number.digitLimit := few.trans (by decide)
    rw [if_neg (Nat.not_lt.mpr few), if_pos few, Number.integerValue?_signed isSign nonempty all fewer]
    rfl
  · rw [if_pos (Nat.not_le.mp few), if_neg few]
    rfl

/-- What comes of any other text. -/
theorem toInt_of_not_signed (other : ¬ IsSigned (trim text)) : toInt text = ⟨none, [.notNumeric]⟩ := by
  have numeral : isNumeral (trim text) = false := Bool.eq_false_iff.mpr fun numeral =>
    other ((isNumeral_iff fun last => absurd (isBlank_of_getLast?_trim last) (by decide)).mp numeral)
  rw [toInt, numeral]
  rfl

/-! ### Exactness -/

/-- What decimal digits are worth, the last one counting ones. -/
def decimalValue (digits : Text) : Nat :=
  Nat.ofDigits 10 (digits.reverse.map fun digit => digit.toNat - '0'.toNat)

theorem toNat_eq_decimalValue (all : ∀ digit ∈ digits, digit.isDigit = true) :
    toNat 10 digits = decimalValue digits := by
  induction digits using List.reverseRecOn with
  | nil => rfl
  | append_singleton digits last ih =>
    obtain ⟨others, single⟩ := List.forall_mem_append.mp all
    have value : digitOf last = last.toNat - '0'.toNat := if_pos (single last List.mem_cons_self)
    rw [toNat_concat, ih others, value, decimalValue, decimalValue, List.reverse_append,
      List.reverse_singleton,
      List.singleton_append, List.map_cons, Nat.ofDigits_cons, Nat.mul_comm, Nat.add_comm]

/-- **An integer as it is written**: a sign that may be missing, and one to twenty decimal digits. -/
def WritesInteger (text : Text) (number : Int) : Prop :=
  ∃ sign ∈ signs, ∃ digits, text = sign ++ digits ∧ (1 ≤ digits.length ∧ digits.length ≤ 20) ∧
    (∀ digit ∈ digits, digit.isDigit = true) ∧ number = signed sign (decimalValue digits)

theorem toInt_eq_some_iff {number : Int} :
    (toInt text).value = some number ↔ WritesInteger (trim text) number := by
  constructor
  · intro read
    by_cases isSigned : IsSigned (trim text)
    · obtain ⟨sign, isSign, digits, split, nonempty, all⟩ := isSigned
      rw [toInt_signed isSign nonempty all split] at read
      split_ifs at read with few
      cases read
      exact ⟨sign, isSign, digits, split, ⟨List.length_pos_of_ne_nil nonempty, few⟩, all,
        congrArg _ (toNat_eq_decimalValue all)⟩
    · rw [toInt_of_not_signed isSigned] at read
      cases read
  · rintro ⟨sign, isSign, digits, split, ⟨one, atMost⟩, all, rfl⟩
    have few : digits.length ≤ digitLimit := atMost
    rw [toInt_signed isSign (List.ne_nil_of_length_pos one) all split, if_pos few,
      toNat_eq_decimalValue all]

/-- What is handed on to the general reader is never refused by it. -/
theorem not_mem_notices_toInt (text : Text) : .notConverted ∉ (toInt text).notices := by
  by_cases isSigned : IsSigned (trim text)
  · obtain ⟨sign, isSign, digits, split, nonempty, all⟩ := isSigned
    rw [toInt_signed isSign nonempty all split]
    split_ifs
    · exact List.not_mem_nil
    · decide
  · rw [toInt_of_not_signed isSigned]
    decide

/-- An integer is read from its own numeral if that has at most twenty digits. -/
theorem toInt_ofInt (number : Int) :
    (toInt (ofInt number)).value = if number.natAbs < 10 ^ 20 then some number else none := by
  have isSign : (if number < 0 then ['-'] else []) ∈ signs := by
    split <;> decide
  have all : ∀ digit ∈ ofNat number.natAbs, digit.isDigit = true := fun _ => isDigit_of_mem_ofNat
  have split : trim (ofInt number) = _ :=
    (congrArg trim (ofInt_eq number)).trans (Number.trim_signed isSign all)
  have value : signed (if number < 0 then ['-'] else []) number.natAbs = number := by
    by_cases negative : number < 0
    · rw [if_pos negative, signed, if_pos rfl]
      omega
    · rw [if_neg negative, signed, if_neg (by decide)]
      omega
  have few : (ofNat number.natAbs).length ≤ digitLimit ↔ number.natAbs < 10 ^ 20 :=
    Nat.length_toDigits_le_iff (by decide) (by decide)
  rw [toInt_signed isSign (ofNat_ne_nil _) all split, toNat_ofNat, value]
  by_cases small : number.natAbs < 10 ^ 20
  · rw [if_pos (few.mpr small), if_pos small]
  · rw [if_neg (mt few.mp small), if_neg small]

/-- **Integers are read exactly.** An integer is read from just the texts that write it between
white space, and nothing from the others. What a numeral is converted by never fails, and the
numeral of an integer is read back where it has at most twenty digits. -/
theorem toInt_exact :
    (∀ text number, (toInt text).value = some number ↔ WritesInteger (trim text) number) ∧
      (∀ text, (∀ number, ¬ WritesInteger (trim text) number) → (toInt text).value = none) ∧
      (∀ text, .notConverted ∉ (toInt text).notices) ∧
      ∀ number : Int, (toInt (ofInt number)).value =
        if number.natAbs < 10 ^ 20 then some number else none := by
  refine ⟨fun _ _ => toInt_eq_some_iff, fun text unwritten => ?_, not_mem_notices_toInt, toInt_ofInt⟩
  exact Option.eq_none_iff_forall_ne_some.mpr fun number read =>
    unwritten number (toInt_eq_some_iff.mp read)

end Event

end GrokEvents
