/-
**What is read is a moment of the calendar.**

Whatever an ISO 8601 text looks like, its parts are in range: so many digits are worth less than a
power of ten, a fraction is less than a second, and offsets of a day or more are refused.

* `fraction?_lt`, `parts?_lt`: no fraction comes to a second.
* `zone?_range`: no offset comes to a day, and none is of less than a second.
* `moment?_cases`: all that reading a moment can do.
* `isProper_of_moment?`: what is read is proper.
-/

import GrokEvents.Proofs.Time.Layout
import GrokEvents.Time.Iso

namespace GrokEvents.Time.Iso

open Text

theorem digits?_lt {count value : Nat} {text rest : Text}
    (read : digits? count text = some (value, rest)) :
    value < 10 ^ count := by
  rw [digits?] at read
  split at read
  · rename_i good
    obtain ⟨long, all⟩ := Bool.and_eq_true_iff.mp good
    have small := toNat_lt (List.all_eq_true.mp all)
    rw [of_decide_eq_true long] at small
    cases read
    exact small
  · cases read

/-- The digits of a fraction count from the first place after the second on. -/
theorem fraction?_lt {text : Text} {following : Char} {microsecond : Nat} {followed : Bool}
    (read : fraction? text following = some (microsecond, followed)) : microsecond < 1000000 := by
  rw [fraction?] at read
  obtain ⟨⟨value, rest⟩, digits, same⟩ := Option.bind_eq_some_iff.mp read
  cases same
  have few : min text.length 6 ≤ 6 := Nat.min_le_right ..
  calc value * 10 ^ (6 - min text.length 6)
    _ < 10 ^ min text.length 6 * 10 ^ (6 - min text.length 6) :=
      Nat.mul_lt_mul_of_pos_right (digits?_lt digits) (Nat.pow_pos (by decide))
    _ = 10 ^ 6 := by rw [← pow_add, Nat.add_sub_cancel' few]

/-- Pair by pair, the fraction at the end is less than a second. -/
theorem parts?_lt {following : Char} {count : Nat} {colons : Option Bool} {pairs : List Nat}
    {text : Text}
    {parts : Parts} (read : parts? following count colons pairs text = some parts) :
    parts.microsecond < 1000000 := by
  induction count generalizing colons pairs text with
  | zero =>
    obtain ⟨⟨microsecond, followed⟩, fraction, same⟩ := Option.bind_eq_some_iff.mp read
    cases same
    exact fraction?_lt fraction
  | succ count ih =>
    obtain ⟨⟨value, rest⟩, -, more⟩ := Option.bind_eq_some_iff.mp read
    dsimp only at more
    split at more
    · cases more
      exact Nat.zero_lt_succ _
    · cases more
      exact Nat.zero_lt_succ _
    · split at more
      · exact ih more
      · split at more
        · obtain ⟨⟨microsecond, followed⟩, fraction, same⟩ := Option.bind_eq_some_iff.mp more
          cases same
          exact fraction?_lt fraction
        · split at more
          · cases more
          · exact ih more

theorem timeOfDay?_lt {text : Text} {following : Char} {time : TimeOfDay} {followed : Bool}
    (read : timeOfDay? text following = some (time, followed)) : time.microsecond < 1000000 := by
  obtain ⟨parts, taken, same⟩ := Option.bind_eq_some_iff.mp read
  cases same
  exact parts?_lt taken

/-- An offset that has been read: less than a day, and none where it would be less than a second. -/
def IsRead (offset : Int) : Prop :=
  offset.natAbs < microsecondsPerDay ∧ (offset = 0 ∨ 1000000 ≤ offset.natAbs)

/-- Offsets of a day or more are refused, and offsets of less than a second count as none. -/
theorem zone?_range {sign : Char} {text : Text} {offset : Int} (read : zone? sign text = some offset) :
    IsRead offset := by
  rw [zone?] at read
  split at read
  · split at read
    · cases read
    · cases read
      exact ⟨by decide, .inl rfl⟩
  · obtain ⟨⟨time, followed⟩, -, sized⟩ := Option.bind_eq_some_iff.mp read
    dsimp only at sized
    split at sized
    · cases sized
    · generalize same : (if time.hour * 3600 + time.minute * 60 + time.second = 0 then 0
        else (time.hour * 3600 + time.minute * 60 + time.second) * 1000000 + time.microsecond) =
          size at sized
      have whole : size = 0 ∨ 1000000 ≤ size := by
        rw [← same]
        split_ifs <;> omega
      split at sized
      · cases sized
      · cases sized
        constructor <;> split <;> omega

theorem time?_range {text : Text} {time : TimeOfDay} {offset : Option Int}
    (read : time? text = some (time, offset)) :
    time.microsecond < 1000000 ∧ ∀ known ∈ offset, IsRead known := by
  rw [time?] at read
  dsimp only at read
  split at read
  · obtain ⟨⟨taken, followed⟩, timed, same⟩ := Option.bind_eq_some_iff.mp read
    dsimp only at same
    split at same
    · cases same
    · cases same
      exact ⟨timeOfDay?_lt timed, nofun⟩
  · obtain ⟨⟨taken, followed⟩, timed, zoned⟩ := Option.bind_eq_some_iff.mp read
    obtain ⟨known, zone, same⟩ := Option.bind_eq_some_iff.mp zoned
    cases same
    refine ⟨timeOfDay?_lt timed, fun known member => ?_⟩
    cases member
    exact zone?_range zone

/-- All that reading a moment can do. Days and times of day out of range are refused, and a text
without a time of day denotes the start of its day. -/
theorem moment?_cases {text : Text} {moment : Moment} (read : moment? text = some moment) :
    moment.date.fault? = none ∧ moment.time.fault? = none ∧
      (moment.time = {} ∧ moment.offset = none ∨ ∃ rest,
        time? rest = some (moment.time, moment.offset)) := by
  have inRange {date : Date} {time : TimeOfDay} {offset : Option Int}
      (same : (if (date.fault?.isSome || time.fault?.isSome) = true then none
        else some ⟨date, time, offset⟩) = some moment) :
      (date.fault? = none ∧ time.fault? = none) ∧ moment = ⟨date, time, offset⟩ := by
    split at same
    · cases same
    · rename_i faultless
      rw [Bool.or_eq_true, not_or, Option.not_isSome_iff_eq_none,
        Option.not_isSome_iff_eq_none] at faultless
      exact ⟨faultless, (Option.some.inj same).symm⟩
  rw [moment?] at read
  dsimp only at read
  split at read
  · cases read
  · obtain ⟨place, -, read⟩ := Option.bind_eq_some_iff.mp read
    obtain ⟨date, -, read⟩ := Option.bind_eq_some_iff.mp read
    split at read
    · obtain ⟨⟨day, clock⟩, rfl⟩ := inRange read
      exact ⟨day, clock, .inl ⟨rfl, rfl⟩⟩
    · obtain ⟨⟨time, offset⟩, timed, read⟩ := Option.bind_eq_some_iff.mp read
      obtain ⟨⟨day, clock⟩, rfl⟩ := inRange read
      exact ⟨day, clock, .inr ⟨_, timed⟩⟩

/-- **What is read is proper**, with a time of day or without. -/
theorem isProper_of_moment? {text : Text} {moment : Moment} (read : moment? text = some moment) :
    moment.IsProper := by
  obtain ⟨date, time, ⟨start, none⟩ | ⟨rest, timed⟩⟩ := moment?_cases read
  · refine ⟨date, time, ?_, ?_⟩
    · rw [start]
      exact Nat.zero_lt_succ _
    · rw [none]
      exact nofun
  · obtain ⟨small, near⟩ := time?_range timed
    exact ⟨date, time, small, fun offset known => (near offset known).1⟩

/-- Its offset is none where it would be less than a second. -/
theorem isRead_of_moment? {text : Text} {moment : Moment} (read : moment? text = some moment) :
    IsRead (moment.offset.getD 0) := by
  have zero : IsRead 0 := ⟨by decide, .inl rfl⟩
  cases known : moment.offset with
  | none => exact zero
  | some offset =>
    obtain ⟨-, -, ⟨-, none⟩ | ⟨rest, timed⟩⟩ := moment?_cases read
    · rw [none] at known
      cases known
    · exact (time?_range timed).2 offset known

end GrokEvents.Time.Iso
