/-
**Windows of access-log dates.**

What is found in a text is the leftmost of its windows, and the offset that follows the window after
any white space.

* `Window`: the parts of a window, with the lengths and the characters that they must have.
* `atStart?_window`, `exists_window_of_atStart?`: a text is read just where it starts with a window.
* `standsLeftmost_of_find?`, `hasWindow_iff`: the leftmost window is found, where there is one.
* `isZoneOf_offset?`: its zone is the offset that follows, or else universal time.
-/

import GrokEvents.Proofs.AccessLog.Record
import GrokEvents.Proofs.Time.Layout

namespace GrokEvents.Time

open Text AccessDate
open AccessLog (Digits)

/-! ### Scanners -/

section Scanners

variable {test : Char → Bool} {count : Nat} {text taken rest : Text}

/-- So many characters are taken just where so many pass the test. -/
theorem take?_eq_some_iff : take? test count text = some (taken, rest) ↔
    text = taken ++ rest ∧ taken.length = count ∧ ∀ char ∈ taken, test char = true := by
  induction count generalizing text taken with
  | zero =>
    simp only [take?, Option.some.injEq, Prod.mk.injEq, List.length_eq_zero_iff]
    constructor
    · rintro ⟨rfl, rfl⟩
      exact ⟨rfl, rfl, nofun⟩
    · rintro ⟨rfl, rfl, -⟩
      exact ⟨rfl, rfl⟩
  | succ count ih =>
    cases text with
    | nil =>
      rw [take?]
      constructor
      · nofun
      · rintro ⟨nothing, long, -⟩
        rw [(List.append_eq_nil_iff.mp nothing.symm).1] at long
        cases long
    | cons char text =>
      rw [take?]
      constructor
      · intro read
        split at read
        · rename_i passes
          obtain ⟨⟨more, left⟩, others, same⟩ := Option.map_eq_some_iff.mp read
          cases same
          obtain ⟨rfl, rfl, all⟩ := ih.mp others
          exact ⟨rfl, rfl, List.forall_mem_cons.mpr ⟨passes, all⟩⟩
        · cases read
      · rintro ⟨split, long, all⟩
        cases taken with
        | nil => cases long
        | cons first more =>
          obtain ⟨rfl, same : text = more ++ rest⟩ := List.cons.inj split
          obtain ⟨passes, others⟩ := List.forall_mem_cons.mp all
          rw [if_pos passes, ih.mpr ⟨same, Nat.succ.inj long, others⟩]
          rfl

theorem take?_digits (digits : Digits count) (rest : Text) :
    take? Char.isDigit count (digits.text ++ rest) = some (digits.text, rest) :=
  take?_eq_some_iff.mpr ⟨rfl, digits.length_eq, digits.digits⟩

theorem exists_digits_of_take? (read : take? Char.isDigit count text = some (taken, rest)) :
    ∃ digits : Digits count, digits.text = taken ∧ text = digits.text ++ rest := by
  obtain ⟨split, long, all⟩ := take?_eq_some_iff.mp read
  exact ⟨⟨taken, long, all⟩, rfl, split⟩

theorem skip?_cons (char : Char) (rest : Text) : skip? char (char :: rest) = some rest :=
  if_pos rfl

theorem eq_cons_of_skip? {wanted : Char} (read : skip? wanted text = some rest) :
    text = wanted :: rest := by
  cases text with
  | nil => cases read
  | cons char left =>
    rw [skip?] at read
    split at read
    · rename_i same
      cases read
      rw [same]
    · cases read

end Scanners

/-! ### Windows -/

/-- **A date as an access log has it, without its offset**: digits with letters for the month. -/
structure Window where
  day : Digits 2
  month : Text
  year : Digits 4
  hour : Digits 2
  minute : Digits 2
  second : Digits 2
  length_month : month.length = 3
  isAlpha_month : ∀ char ∈ month, char.isAlpha = true

namespace Window

/-- The window as it is written. -/
def text (window : Window) : Text :=
  window.day.text ++ '/' :: window.month ++ '/' :: window.year.text ++
    ':' :: window.hour.text ++ ':' :: window.minute.text ++ ':' :: window.second.text

/-- The window in ISO order, with a zone. -/
def iso (window : Window) (zone : Text) : Text :=
  window.year.text ++ '-' :: padded 2 (monthNumber window.month) ++ '-' :: window.day.text ++
    'T' :: window.hour.text ++ ':' :: window.minute.text ++ ':' :: window.second.text ++ zone

/-- The parts of the window, and an offset. -/
def date (window : Window) (offset : Option Text) : AccessDate :=
  ⟨window.day.text, window.month, window.year.text, window.hour.text, window.minute.text,
    window.second.text, offset⟩

theorem iso_date (window : Window) (offset : Option Text) :
    (window.date offset).iso = window.iso (offset.getD ['Z']) :=
  rfl

theorem text_append (window : Window) (after : Text) : window.text ++ after =
    window.day.text ++ '/' :: (window.month ++ '/' :: (window.year.text ++ ':' ::
      (window.hour.text ++ ':' ::
        (window.minute.text ++ ':' :: (window.second.text ++ after))))) := by
  simp [text]

end Window

/-- A window at the start of a text is read, whatever follows it. -/
theorem atStart?_window (window : Window) (after : Text) :
    atStart? (window.text ++ after) = some (window.date (offset? (trimStart after))) := by
  have letters (rest : Text) :
      take? Char.isAlpha 3 (window.month ++ rest) = some (window.month, rest) :=
    take?_eq_some_iff.mpr ⟨rfl, window.length_month, window.isAlpha_month⟩
  rw [window.text_append]
  simp only [atStart?, take?_digits, letters, skip?_cons, Option.bind_eq_bind, Option.bind_some]
  rfl

/-- What is read is a window at the start of the text. -/
theorem exists_window_of_atStart? {date : AccessDate} (read : atStart? text = some date) :
    ∃ window after, text = Window.text window ++ after ∧
      date = window.date (offset? (trimStart after)) := by
  simp only [atStart?, Option.bind_eq_bind, Option.bind_eq_some_iff, Prod.exists] at read
  obtain ⟨_, _, ofDay, _, slash, _, _, ofMonth, _, slash', _, _, ofYear, _, colon, _, _, ofHour, _,
    colon', _, _, ofMinute, _, colon'', _, after, ofSecond, same⟩ := read
  obtain ⟨day, rfl, rfl⟩ := exists_digits_of_take? ofDay
  obtain ⟨rfl, three, letters⟩ := take?_eq_some_iff.mp ofMonth
  obtain ⟨year, rfl, rfl⟩ := exists_digits_of_take? ofYear
  obtain ⟨hour, rfl, rfl⟩ := exists_digits_of_take? ofHour
  obtain ⟨minute, rfl, rfl⟩ := exists_digits_of_take? ofMinute
  obtain ⟨second, rfl, rfl⟩ := exists_digits_of_take? ofSecond
  have split := eq_cons_of_skip? slash
  cases eq_cons_of_skip? slash'
  cases eq_cons_of_skip? colon
  cases eq_cons_of_skip? colon'
  cases eq_cons_of_skip? colon''
  cases same
  refine ⟨⟨day, _, year, hour, minute, second, three, letters⟩, after, ?_, rfl⟩
  rw [split, Window.text_append]

/-! ### The leftmost window -/

variable {text : Text}

/-- A window stands somewhere in the text. -/
def HasWindow (text : Text) : Prop :=
  ∃ before window after, text = before ++ Window.text window ++ after

/-- **The leftmost window of a text**, with what is before it and what is after it. -/
structure StandsLeftmost (window : Window) (before after text : Text) : Prop where
  split : text = before ++ window.text ++ after
  least : ∀ earlier other later,
    text = earlier ++ Window.text other ++ later → before.length ≤ earlier.length

/-- Where a text does not start with a window, the windows in it are those after its first character. -/
theorem exists_of_not_atStart? {char : Char} (notHere : atStart? (char :: text) = none)
    {earlier later : Text}
    {window : Window} (split : char :: text = earlier ++ window.text ++ later) :
    ∃ more, earlier = char :: more ∧ text = more ++ window.text ++ later := by
  cases earlier with
  | nil =>
    rw [split, List.nil_append, atStart?_window] at notHere
    cases notHere
  | cons first more =>
    obtain ⟨rfl, rest⟩ := List.cons.inj split
    exact ⟨more, rfl, rest⟩

/-- What is found is the leftmost window. -/
theorem standsLeftmost_of_find? {date : AccessDate} (found : find? text = some date) :
    ∃ window before after, StandsLeftmost window before after text ∧
      date = window.date (offset? (trimStart after)) := by
  induction text with
  | nil => cases found
  | cons char text ih =>
    rw [find?] at found
    split at found
    · rename_i here
      cases found
      obtain ⟨window, after, split, same⟩ := exists_window_of_atStart? here
      exact ⟨window, [], after, ⟨split, fun _ _ _ _ => Nat.zero_le _⟩, same⟩
    · rename_i notHere
      obtain ⟨window, before, after, stands, same⟩ := ih found
      refine ⟨window, char :: before, after, ⟨congrArg (char :: ·) stands.split, ?_⟩, same⟩
      intro earlier other later split
      obtain ⟨more, rfl, rest⟩ := exists_of_not_atStart? notHere split
      exact Nat.succ_le_succ (stands.least more other later rest)

/-- Where nothing is found there is no window. -/
theorem not_hasWindow_of_find? (missing : find? text = none) : ¬ HasWindow text := by
  rintro ⟨before, window, after, split⟩
  induction text generalizing before with
  | nil =>
    have starts := atStart?_window window after
    obtain ⟨nothing, rfl⟩ := List.append_eq_nil_iff.mp split.symm
    rw [(List.append_eq_nil_iff.mp nothing).2] at starts
    cases starts
  | cons char text ih =>
    rw [find?] at missing
    split at missing
    · cases missing
    · rename_i notHere
      obtain ⟨more, -, rest⟩ := exists_of_not_atStart? notHere split
      exact ih missing more rest

/-- Something is found just where there is a window. -/
theorem hasWindow_iff : HasWindow text ↔ (find? text).isSome = true := by
  cases found : find? text with
  | none => exact iff_of_false (not_hasWindow_of_find? found) nofun
  | some date =>
    obtain ⟨window, before, after, stands, -⟩ := standsLeftmost_of_find? found
    exact iff_of_true ⟨before, window, after, stands.split⟩ rfl

instance (text : Text) : Decidable (HasWindow text) :=
  decidable_of_iff _ hasWindow_iff.symm

/-! ### Zones -/

/-- A sign and four digits. -/
def offsetLayout : Text := '±' :: List.replicate 4 'd'

/-- A text starts, after any white space, with an offset. -/
def StartsWithOffset (text offset : Text) : Prop :=
  ∃ blanks rest, text = blanks ++ offset ++ rest ∧ (∀ char ∈ blanks, isBlank char = true) ∧
    Fits offsetLayout offset

/-- **The zone of a window**, as what follows it has it: an offset, or else universal time. -/
def IsZoneOf (after zone : Text) : Prop :=
  StartsWithOffset after zone ∨ (∀ offset, ¬ StartsWithOffset after offset) ∧ zone = ['Z']

theorem fits_offsetLayout_iff {offset : Text} : Fits offsetLayout offset ↔
    ∃ sign digits, offset = sign :: digits ∧ (sign = '+' || sign = '-') = true ∧ digits.length = 4 ∧
      ∀ char ∈ digits, char.isDigit = true := by
  constructor
  · intro fits
    obtain ⟨sign, digits, signed, four, rfl⟩ := List.forall₂_cons_left_iff.mp fits
    exact ⟨sign, digits, rfl, signed, fits_digits_iff.mp four⟩
  · rintro ⟨sign, digits, rfl, signed, four⟩
    exact .cons signed (fits_digits_iff.mpr four)

theorem offset?_eq_some_iff {offset : Text} :
    offset? text = some offset ↔ ∃ rest, text = offset ++ rest ∧ Fits offsetLayout offset := by
  constructor
  · intro read
    cases text with
    | nil => cases read
    | cons sign text =>
      rw [offset?] at read
      split at read
      · rename_i signed
        obtain ⟨⟨digits, rest⟩, four, same⟩ := Option.map_eq_some_iff.mp read
        cases same
        obtain ⟨split, isFour⟩ := take?_eq_some_iff.mp four
        exact ⟨rest, congrArg (sign :: ·) split,
          fits_offsetLayout_iff.mpr ⟨sign, digits, rfl, signed, isFour⟩⟩
      · cases read
  · rintro ⟨rest, rfl, fits⟩
    obtain ⟨sign, digits, rfl, signed, isFour⟩ := fits_offsetLayout_iff.mp fits
    have read : take? Char.isDigit 4 (digits ++ rest) = some (digits, rest) :=
      take?_eq_some_iff.mpr ⟨rfl, isFour⟩
    rw [List.cons_append, offset?, if_pos signed, read]
    rfl

/-- White space before an offset is skipped, as a sign is none. -/
theorem offset?_trimStart {offset : Text} :
    offset? (trimStart text) = some offset ↔ StartsWithOffset text offset := by
  rw [offset?_eq_some_iff]
  constructor
  · rintro ⟨rest, start, fits⟩
    refine ⟨text.takeWhile isBlank, rest, ?_, List.all_eq_true.mp List.all_takeWhile, fits⟩
    rw [List.append_assoc, ← start, trimStart, List.takeWhile_append_dropWhile]
  · rintro ⟨blanks, rest, rfl, blank, fits⟩
    obtain ⟨sign, digits, rfl, signed, -⟩ := fits_offsetLayout_iff.mp fits
    have visible : ¬ isBlank sign = true := by
      rcases Bool.or_eq_true_iff.mp signed with plus | minus
      · rw [of_decide_eq_true plus]
        decide
      · rw [of_decide_eq_true minus]
        decide
    refine ⟨rest, ?_, fits⟩
    rw [List.append_assoc, trimStart, List.dropWhile_append_of_pos blank, List.cons_append,
      List.dropWhile_cons_of_neg visible]

/-- What follows a window decides its zone. -/
theorem isZoneOf_offset? (after : Text) : IsZoneOf after ((offset? (trimStart after)).getD ['Z']) := by
  cases read : offset? (trimStart after) with
  | some offset => exact .inl (offset?_trimStart.mp read)
  | none =>
    refine .inr ⟨fun offset starts => ?_, rfl⟩
    rw [offset?_trimStart.mpr starts] at read
    cases read

end GrokEvents.Time
