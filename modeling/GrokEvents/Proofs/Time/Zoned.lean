/-
**Timestamps carry a zone.**

A text becomes a timestamp by its leftmost window, by the ISO 8601 moment that it denotes, or else
by the clock. All three are written in the layouts of timestamps, and only the last depends on the
clock.

* `isTimestamp_window`: a window with its zone is a timestamp.
* `value_of_window`: both readings of a text with a window are its leftmost window.
* `timestamps_zoned`: what both readings of any text are.
-/

import GrokEvents.Proofs.Time.Clock
import GrokEvents.Proofs.Time.Reading
import GrokEvents.Proofs.Time.Window

namespace GrokEvents.Time

open Text AccessDate
open AccessLog (Digits)

/-! ### Windows -/

theorem monthNumber_le (name : Text) : monthNumber name ≤ 12 := by
  rw [monthNumber]
  split
  · rename_i index found
    have within : index < monthNames.length := (List.idxOf?_eq_some_iff.mp found).1
    exact within
  · decide

theorem fits_text {count : Nat} (digits : Digits count) : Fits (List.replicate count 'd') digits.text :=
  fits_digits_iff.mpr ⟨digits.length_eq, digits.digits⟩

theorem IsZoneOf.fits {after zone : Text} (isZone : IsZoneOf after zone) :
    ∃ layout ∈ zoneLayouts, Fits layout zone := by
  rcases isZone with ⟨_, _, _, _, fits⟩ | ⟨_, rfl⟩
  · exact ⟨offsetLayout, by decide, fits⟩
  · exact ⟨"Z".toList, by decide, by decide⟩

/-- A window with its zone is a timestamp. -/
theorem isTimestamp_window (window : Window) {after zone : Text} (isZone : IsZoneOf after zone) :
    IsTimestamp (window.iso zone) := by
  obtain ⟨layout, isLayout, zoned⟩ := isZone.fits
  have month := fits_pair (Nat.lt_of_le_of_lt (monthNumber_le window.month) (by decide : 12 < 100))
  have day := ((fits_text window.year).append (.mark '-' rfl month)).append
    (.mark '-' rfl (fits_text window.day))
  have hour := day.append (.mark 'T' rfl (fits_text window.hour))
  have clock := (hour.append (.mark ':' rfl (fits_text window.minute))).append
    (.mark ':' rfl (fits_text window.second))
  exact ⟨"".toList, by decide, layout, isLayout, clock.append zoned⟩

/-! ### Readings -/

/-- A moment of universal time where no zone is given. -/
def Moment.zoned (moment : Moment) : Moment :=
  { moment with offset := some (moment.offset.getD 0) }

theorem Moment.IsProper.zoned {moment : Moment} (proper : moment.IsProper) : moment.zoned.IsProper := by
  refine ⟨proper.date, proper.time, proper.microsecond, ?_⟩
  rintro offset ⟨⟩
  cases known : moment.offset with
  | none => decide
  | some offset => exact proper.offset offset known

/-- Both readings of a text with a window are its leftmost window with the zone that follows. -/
theorem value_of_find? {text : Text} {date : AccessDate} (found : find? text = some date) :
    ∃ window before after zone, StandsLeftmost window before after text ∧ IsZoneOf after zone ∧
      ∀ clock, (normalizeDate clock text).value = window.iso zone ∧
        (parseTimestamp clock text).value = window.iso zone := by
  obtain ⟨window, before, after, stands, same⟩ := standsLeftmost_of_find? found
  refine ⟨window, before, after, _, stands, isZoneOf_offset? after, fun clock => ?_⟩
  rw [normalizeDate_of_window clock found, parseTimestamp_of_window clock found, same, Window.iso_date]
  exact ⟨rfl, rfl⟩

/-- Without a window the first reading is the clock, and the second is the moment that the text
denotes or else the clock. -/
theorem value_of_not_find? {text : Text} (missing : find? text = none) (clock : Moment) :
    (normalizeDate clock text).value = clock.stamp ∧
      (parseTimestamp clock text).value =
        ((Iso.moment? (trim text)).map fun moment => moment.zoned.iso).getD clock.stamp := by
  rw [normalizeDate, parseTimestamp, missing]
  refine ⟨rfl, ?_⟩
  dsimp only
  cases Iso.moment? (trim text) <;> rfl

/-- **Timestamps carry a zone, and the clock is the last resort.** Both readings of any text are
timestamps. Where a window stands in the text, both are the leftmost one with the zone that follows
it, whatever the clock. Else the first is the clock, and the second is as well but where the trimmed
text denotes a moment, which it then is whatever the clock. -/
theorem timestamps_zoned {clock : Moment} (proper : clock.IsProper) (text : Text) :
    IsTimestamp (normalizeDate clock text).value ∧ IsTimestamp (parseTimestamp clock text).value ∧
      (HasWindow text → ∃ window before after zone, StandsLeftmost window before after text ∧
        IsZoneOf after zone ∧ ∀ other, (normalizeDate other text).value = window.iso zone ∧
          (parseTimestamp other text).value = window.iso zone) ∧
      (¬ HasWindow text → (normalizeDate clock text).value = clock.stamp ∧
        (Iso.moment? (trim text) = none → (parseTimestamp clock text).value = clock.stamp) ∧
        ∀ moment, Iso.moment? (trim text) = some moment →
          ∀ other, (parseTimestamp other text).value = moment.zoned.iso) := by
  cases found : find? text with
  | some date =>
    obtain ⟨window, before, after, zone, stands, isZone, same⟩ := value_of_find? found
    have stamped := isTimestamp_window window isZone
    rw [(same clock).1, (same clock).2]
    refine ⟨stamped, stamped, fun _ => ⟨window, before, after, zone, stands, isZone, same⟩,
      fun noWindow => ?_⟩
    exact absurd ⟨before, window, after, stands.split⟩ noWindow
  | none =>
    have noWindow := not_hasWindow_of_find? found
    have normalized := (value_of_not_find? found clock).1
    have parsed (other : Moment) := (value_of_not_find? found other).2
    refine ⟨?normalized, ?parsed, fun window => absurd window noWindow,
      fun _ => ⟨normalized, ?unread, ?read⟩⟩
    case normalized =>
      rw [normalized]
      exact isTimestamp_stamp proper
    case parsed =>
      rw [parsed]
      cases read : Iso.moment? (trim text) with
      | none => exact isTimestamp_stamp proper
      | some moment => exact isTimestamp_iso (Iso.isProper_of_moment? read).zoned rfl
    case unread =>
      intro unread
      rw [parsed, unread]
      rfl
    case read =>
      intro moment read other
      rw [parsed, read]
      rfl

/-- Two windows of which the first has its offset two blanks on. -/
def twoWindows : Text := "x10/Oct/2000:13:55:36  -0700, 11/Nov/2001:01:02:03".toList

/-- A moment without a window, and blanks around it. -/
def blankedMoment : Text := " 2017-04-24 21:22:23,5-07 ".toList

/-- The first window is read, whatever the clock, and so is the moment. -/
theorem timestamps_zoned_twoWindows :
    (∃ window before after zone, StandsLeftmost window before after twoWindows ∧ IsZoneOf after zone ∧
      window.iso zone = "2000-10-10T13:55:36-0700".toList ∧
      ∀ clock, (parseTimestamp clock twoWindows).value = window.iso zone) ∧
      ∀ clock, (parseTimestamp clock blankedMoment).value =
        "2017-04-24T21:22:23.500000-07:00".toList := by
  have proper : (Moment.sinceEpoch 0).IsProper := isProper_sinceEpoch (by decide)
  constructor
  · have hasWindow : HasWindow twoWindows := by
      decide +kernel
    obtain ⟨-, -, windowed, -⟩ := timestamps_zoned proper twoWindows
    obtain ⟨window, before, after, zone, stands, isZone, same⟩ := windowed hasWindow
    refine ⟨window, before, after, zone, stands, isZone, ?_, fun clock => (same clock).2⟩
    rw [← (same (.sinceEpoch 0)).1]
    decide +kernel
  · have noWindow : ¬ HasWindow blankedMoment := by
      decide +kernel
    obtain ⟨-, -, -, unwindowed⟩ := timestamps_zoned proper blankedMoment
    have moment : Iso.moment? (trim blankedMoment) =
        some ⟨⟨2017, 4, 24⟩, ⟨21, 22, 23, 500000⟩, some (-25200000000)⟩ := by
      decide +kernel
    intro clock
    rw [(unwindowed noWindow).2.2 _ moment clock]
    decide +kernel

end GrokEvents.Time
