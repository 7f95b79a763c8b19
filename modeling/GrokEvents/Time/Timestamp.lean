/-
**Timestamps.**

Every date that a log line carries becomes an ISO 8601 timestamp with a zone. The clock is
consulted only where the text holds no date.

* `normalizeDate_of_window`, `parseTimestamp_of_window`: a text with an access-log window is read
  the same way by both, whatever the clock.
-/

import GrokEvents.Time.AccessLog
import GrokEvents.Time.Iso
import GrokEvents.Notice

namespace GrokEvents.Time

/-- The timestamp of the leftmost access-log window of a text, or of the clock. -/
def normalizeDate (clock : Moment) (text : Text) : Logged Text :=
  match AccessDate.find? text with
  | some date => pure date.iso
  | none => do
    Logged.note .unmatchedDate
    return clock.stamp

/-- The timestamp of an access-log window or else of an ISO 8601 text, or of the clock. A time
without a zone is taken as universal time. -/
def parseTimestamp (clock : Moment) (text : Text) : Logged Text :=
  match AccessDate.find? text with
  | some date => pure date.iso
  | none =>
    match Iso.moment? (Text.trim text) with
    | some moment => pure { moment with offset := some (moment.offset.getD 0) }.iso
    | none => do
      Logged.note .unknownTimestamp
      return clock.stamp

theorem normalizeDate_of_window {text : Text} {date : AccessDate} (clock : Moment)
    (found : AccessDate.find? text = some date) : normalizeDate clock text = pure date.iso := by
  simp [normalizeDate, found]

theorem parseTimestamp_of_window {text : Text} {date : AccessDate} (clock : Moment)
    (found : AccessDate.find? text = some date) : parseTimestamp clock text = pure date.iso := by
  simp [parseTimestamp, found]

end GrokEvents.Time
