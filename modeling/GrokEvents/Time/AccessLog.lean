/-
**Dates of access logs.**

The window `dd/Mon/yyyy:hh:mm:ss` with, after any white space, an offset of a sign and four
digits. It may stand anywhere in a text; the leftmost one counts.
-/

import GrokEvents.Text.Blank

namespace GrokEvents.Time

/-! ## Windows -/

/-- The parts of an access-log date, as they are written. -/
structure AccessDate where
  day : Text
  month : Text
  year : Text
  hour : Text
  minute : Text
  second : Text
  offset : Option Text
deriving DecidableEq, Repr

namespace AccessDate

/-- As many characters as wanted that pass a test, and what follows them. -/
def take? (test : Char → Bool) : Nat → Text → Option (Text × Text)
  | 0, text => some ([], text)
  | _ + 1, [] => none
  | count + 1, char :: rest =>
    if test char then (take? test count rest).map fun (taken, left) => (char :: taken, left)
    else none

/-- What follows one given character. -/
def skip? (wanted : Char) : Text → Option Text
  | [] => none
  | char :: rest => if char = wanted then some rest else none

/-- The offset that a text starts with. -/
def offset? : Text → Option Text
  | [] => none
  | sign :: rest =>
    if sign = '+' || sign = '-' then
      (take? Char.isDigit 4 rest).map fun (digits, _) => sign :: digits
    else none

/-- The window that a text starts with. -/
def atStart? (text : Text) : Option AccessDate := do
  let (day, text) ← take? Char.isDigit 2 text
  let text ← skip? '/' text
  let (month, text) ← take? Char.isAlpha 3 text
  let text ← skip? '/' text
  let (year, text) ← take? Char.isDigit 4 text
  let text ← skip? ':' text
  let (hour, text) ← take? Char.isDigit 2 text
  let text ← skip? ':' text
  let (minute, text) ← take? Char.isDigit 2 text
  let text ← skip? ':' text
  let (second, text) ← take? Char.isDigit 2 text
  return ⟨day, month, year, hour, minute, second, offset? (Text.trimStart text)⟩

/-- The leftmost window of a text. -/
def find? : Text → Option AccessDate
  | [] => none
  | char :: rest =>
    match atStart? (char :: rest) with
    | some date => some date
    | none => find? rest

/-- The English abbreviations of the months, from January on. -/
def monthNames : List Text :=
  ["Jan".toList, "Feb".toList, "Mar".toList, "Apr".toList, "May".toList, "Jun".toList,
    "Jul".toList, "Aug".toList, "Sep".toList, "Oct".toList, "Nov".toList, "Dec".toList]

/-- The number of a month; what is no month counts as January. -/
def monthNumber (name : Text) : Nat :=
  match monthNames.idxOf? name with
  | some index => index + 1
  | none => 1

/-- The date in ISO order, with the offset as it was written, or `Z` without one. -/
def iso (date : AccessDate) : Text :=
  date.year ++ '-' :: Text.padded 2 (monthNumber date.month) ++ '-' :: date.day ++
    'T' :: date.hour ++ ':' :: date.minute ++ ':' :: date.second ++ date.offset.getD ['Z']

end AccessDate

end GrokEvents.Time
