/-
**Layouts of timestamps.**

A layout is a text of marks, each of which admits some characters. A moment of the calendar is
written in one of the layouts of timestamps, whether by the ISO text of it or by the stamp of a
clock.

* `Fits`: a text stands in a layout, mark by mark.
* `IsTimestamp`: a text stands in one of the fifteen layouts of a day, a time of day and a zone.
* `isTimestamp_iso`, `isTimestamp_stamp`: a proper moment is written as a timestamp.
-/

import GrokEvents.Proofs.Text.Numeral
import GrokEvents.Time.Calendar
import Mathlib.Data.List.Forall2

namespace GrokEvents.Time

open Text

/-! ### Layouts -/

/-- Whether a character may stand at a mark: an ASCII digit at `d`, a sign at `±`, and else the mark
itself. -/
def admits (mark char : Char) : Bool :=
  if mark = 'd' then char.isDigit
  else if mark = '±' then char = '+' || char = '-'
  else char = mark

/-- A text stands in a layout, mark by mark. -/
def Fits (layout text : Text) : Prop :=
  List.Forall₂ (fun mark char => admits mark char = true) layout text

instance (layout text : Text) : Decidable (Fits layout text) :=
  inferInstanceAs (Decidable (List.Forall₂ _ layout text))

variable {layout text second rest : Text}

theorem Fits.append (first : Fits layout text) (next : Fits second rest) :
    Fits (layout ++ second) (text ++ rest) :=
  List.rel_append first next

theorem Fits.cons {mark char : Char} (admitted : admits mark char = true) (next : Fits layout text) :
    Fits (mark :: layout) (char :: text) :=
  List.Forall₂.cons admitted next

/-- A mark that stands for itself. -/
theorem Fits.mark (mark : Char) (literal : admits mark mark = true) (next : Fits layout text) :
    Fits (mark :: layout) (mark :: text) :=
  .cons literal next

/-- So many digits fit so many marks for one, and nothing else does. -/
theorem fits_digits_iff {count : Nat} :
    Fits (List.replicate count 'd') text ↔
      text.length = count ∧ ∀ char ∈ text, char.isDigit = true := by
  induction count generalizing text with
  | zero => cases text <;> simp [Fits]
  | succ count ih =>
    cases text with
    | nil => simp [Fits]
    | cons char rest =>
      rw [List.replicate_succ, Fits, List.forall₂_cons, ← Fits, ih, List.forall_mem_cons,
        List.length_cons, Nat.add_right_cancel_iff]
      exact and_left_comm

/-- A number below a power of ten fits so many marks for a digit. -/
theorem fits_padded {number : Nat} (width : Nat) (wide : 0 < width) (small : number < 10 ^ width) :
    Fits (List.replicate width 'd') (padded width number) :=
  fits_digits_iff.mpr ⟨length_padded wide small, fun _ => isDigit_of_mem_padded⟩

theorem fits_pair {number : Nat} (small : number < 100) : Fits "dd".toList (padded 2 number) :=
  fits_padded 2 (by decide) small

/-! ### Timestamps -/

def dayLayout : Text := "dddd-dd-dd".toList

def clockLayout : Text := "dd:dd:dd".toList

/-- No fraction of a second, milliseconds or microseconds. -/
def fractionLayouts : List Text :=
  ["".toList, ".ddd".toList, ".dddddd".toList]

/-- Universal time, an offset as access logs have it, or one in ISO form. -/
def zoneLayouts : List Text :=
  ["Z".toList, "±dddd".toList, "±dd:dd".toList, "±dd:dd:dd".toList, "±dd:dd:dd.dddddd".toList]

/-- **A day, a time of day and a zone.** -/
def IsTimestamp (text : Text) : Prop :=
  ∃ fraction ∈ fractionLayouts, ∃ zone ∈ zoneLayouts,
    Fits (dayLayout ++ 'T' :: (clockLayout ++ fraction) ++ zone) text

/-! ### Moments -/

theorem Date.fault?_eq_none_iff {date : Date} : date.fault? = none ↔
    (1 ≤ date.year ∧ date.year ≤ 9999) ∧ (1 ≤ date.month ∧ date.month ≤ 12) ∧
      1 ≤ date.day ∧ date.day ≤ daysIn date.year date.month := by
  simp only [Date.fault?, Bool.or_eq_true, decide_eq_true_eq]
  split_ifs <;> simp <;> omega

theorem TimeOfDay.fault?_eq_none_iff {time : TimeOfDay} : time.fault? = none ↔
    time.hour ≤ 23 ∧ time.minute ≤ 59 ∧ time.second ≤ 59 := by
  rw [TimeOfDay.fault?]
  split_ifs <;> simp <;> omega

theorem daysIn_le (year month : Nat) : daysIn year month ≤ 31 := by
  unfold daysIn
  split_ifs <;> decide

/-- **A moment of the calendar.** Its parts are in range, and it is less than a day off universal
time. -/
structure Moment.IsProper (moment : Moment) : Prop where
  date : moment.date.fault? = none
  time : moment.time.fault? = none
  microsecond : moment.time.microsecond < 1000000
  offset : ∀ offset ∈ moment.offset, offset.natAbs < microsecondsPerDay

theorem Date.fits_iso {date : Date} (proper : date.fault? = none) : Fits dayLayout date.iso := by
  obtain ⟨⟨-, year⟩, ⟨-, month⟩, -, day⟩ := Date.fault?_eq_none_iff.mp proper
  have short := daysIn_le date.year date.month
  exact ((fits_padded 4 (by decide) (by omega)).append (.cons rfl (fits_pair (by omega)))).append
    (.cons rfl (fits_pair (by omega)))

theorem TimeOfDay.fits_isoSeconds {time : TimeOfDay} (proper : time.fault? = none) :
    Fits clockLayout time.isoSeconds := by
  obtain ⟨hour, minute, second⟩ := TimeOfDay.fault?_eq_none_iff.mp proper
  exact ((fits_pair (by omega)).append (.cons rfl (fits_pair (by omega)))).append
    (.cons rfl (fits_pair (by omega)))

theorem TimeOfDay.fits_iso {time : TimeOfDay} (proper : time.fault? = none)
    (small : time.microsecond < 1000000) :
    ∃ fraction ∈ fractionLayouts, Fits (clockLayout ++ fraction) time.iso := by
  rw [TimeOfDay.iso]
  split
  · exact ⟨_, by decide, (TimeOfDay.fits_isoSeconds proper).append (.nil : Fits "".toList [])⟩
  · exact ⟨".dddddd".toList, by decide,
      (TimeOfDay.fits_isoSeconds proper).append (.cons rfl (fits_padded 6 (by decide) small))⟩

/-- An offset of less than a day is a zone, with seconds and microseconds where it has any. -/
theorem fits_isoOffset {offset : Int} (small : offset.natAbs < microsecondsPerDay) :
    ∃ zone ∈ zoneLayouts, Fits zone (isoOffset offset) := by
  have hours : offset.natAbs / 1000000 / 3600 < 100 := by
    rw [microsecondsPerDay] at small
    omega
  have signed : admits '±' (if offset < 0 then '-' else '+') = true := by
    split <;> rfl
  have minutes : Fits ":dd".toList (':' :: padded 2 (offset.natAbs / 1000000 / 60 % 60)) :=
    .cons rfl (fits_pair (by omega))
  have seconds : Fits ":dd".toList (':' :: padded 2 (offset.natAbs / 1000000 % 60)) :=
    .cons rfl (fits_pair (by omega))
  have microseconds : Fits ".dddddd".toList ('.' :: padded 6 (offset.natAbs % 1000000)) :=
    .cons rfl (fits_padded 6 (by decide) (by omega))
  rw [isoOffset]
  generalize (if offset < 0 then '-' else '+') = sign at signed ⊢
  have short := (Fits.cons signed (fits_pair hours)).append minutes
  split
  · exact ⟨"±dd:dd".toList, by decide, short.append (.nil : Fits [] [])⟩
  · split
    · exact ⟨"±dd:dd:dd".toList, by decide, short.append (seconds.append (.nil : Fits [] []))⟩
    · exact ⟨"±dd:dd:dd.dddddd".toList, by decide, short.append (seconds.append microseconds)⟩

/-- A proper moment with an offset is written as a timestamp. -/
theorem isTimestamp_iso {moment : Moment} (proper : moment.IsProper)
    (zoned : moment.offset.isSome = true) :
    IsTimestamp moment.iso := by
  obtain ⟨offset, known⟩ := Option.isSome_iff_exists.mp zoned
  obtain ⟨fraction, isFraction, time⟩ := TimeOfDay.fits_iso proper.time proper.microsecond
  obtain ⟨zone, isZone, written⟩ := fits_isoOffset (proper.offset offset known)
  refine ⟨fraction, isFraction, zone, isZone, ?_⟩
  rw [Moment.iso, known]
  exact ((Date.fits_iso proper.date).append (.cons rfl time)).append written

/-- So is the stamp of a clock. -/
theorem isTimestamp_stamp {moment : Moment} (proper : moment.IsProper) : IsTimestamp moment.stamp := by
  have milliseconds : Fits ".ddd".toList ('.' :: padded 3 (moment.time.microsecond / 1000)) :=
    .cons rfl (fits_padded 3 (by decide) (by have := proper.microsecond; omega))
  refine ⟨".ddd".toList, by decide, "Z".toList, by decide, ?_⟩
  rw [Moment.stamp]
  exact (((Date.fits_iso proper.date).append (.cons rfl (TimeOfDay.fits_isoSeconds proper.time))).append
    milliseconds).append (by decide)

end GrokEvents.Time
