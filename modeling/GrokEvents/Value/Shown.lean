/-
**Values inside messages.**

How a value is shown where a message names it: texts in quotes, collections in their brackets,
dates by their parts.
-/

import GrokEvents.Value.Basic
import GrokEvents.Text.Quoted

namespace GrokEvents.Value

/-! ## Bytes and dates -/

/-- A byte inside quoted bytes. -/
def shownByte (quote : Char) (byte : Nat) : Text :=
  let char := Char.ofNat byte
  if char = quote || char = '\\' then ['\\', char]
  else if char = '\t' then ['\\', 't']
  else if char = '\n' then ['\\', 'n']
  else if char = '\r' then ['\\', 'r']
  else if 32 ≤ byte && byte < 127 then [char]
  else '\\' :: 'x' :: Text.hexadecimal 2 byte

/-- Bytes in quotes. -/
def shownBytes (bytes : List Nat) : Text :=
  let quote := Text.quoteFor (bytes.map Char.ofNat)
  'b' :: quote :: bytes.flatMap (shownByte quote) ++ [quote]

/-- Numerals with commas between them. -/
def shownNumbers (numbers : List Nat) : Text :=
  Text.join ", ".toList (numbers.map Text.ofNat)

/-- The parts of a day. -/
def shownDate (date : Time.Date) : Text :=
  "datetime.date(".toList ++ shownNumbers [date.year, date.month, date.day] ++ [')']

/-- A span of time by its days, seconds and microseconds, of which only the days may be negative. -/
def shownSpan (microseconds : Int) : Text :=
  let days := microseconds.fdiv Time.microsecondsPerDay
  let left := (microseconds.fmod Time.microsecondsPerDay).toNat
  let part (name : String) (value : Int) : List Text :=
    if value = 0 then [] else [name.toList ++ '=' :: Text.ofInt value]
  let parts := part "days" days ++ part "seconds" (left / 1000000 : Nat) ++
    part "microseconds" (left % 1000000 : Nat)
  "datetime.timedelta(".toList ++
    (if parts.isEmpty then ['0'] else Text.join ", ".toList parts) ++ [')']

/-- The zone of an offset. -/
def shownZone (offset : Int) : Text :=
  if offset = 0 then "datetime.timezone.utc".toList
  else "datetime.timezone(".toList ++ shownSpan offset ++ [')']

/-- The parts of a moment; zero seconds and microseconds at the end are left out. -/
def shownMoment (moment : Time.Moment) : Text :=
  let time := moment.time
  let tail :=
    if time.microsecond ≠ 0 then [time.second, time.microsecond]
    else if time.second ≠ 0 then [time.second]
    else []
  "datetime.datetime(".toList ++
    shownNumbers ([moment.date.year, moment.date.month, moment.date.day, time.hour, time.minute] ++
      tail) ++
    (moment.offset.map fun offset => ", tzinfo=".toList ++ shownZone offset).getD [] ++ [')']

/-! ## Values -/

mutual

/-- A value as a message shows it. -/
def shown : Value → Text
  | .null => "None".toList
  | .bool value => (if value then "True" else "False").toList
  | .int value => Text.ofInt value
  | .real value => Number.messageStyle.ofBits value.toBits.toNat
  | .text value => Text.quoted value
  | .bytes value => shownBytes value
  | .date value => shownDate value
  | .moment value => shownMoment value
  | .list items => '[' :: shownItems items ++ [']']
  | .pair first second => '(' :: first.shown ++ ',' :: ' ' :: second.shown ++ [')']
  | .set items =>
    if items.isEmpty then "set()".toList else '{' :: shownItems items ++ ['}']
  | .mapping entries => '{' :: shownEntries entries ++ ['}']
  | .again isMapping => (if isMapping then ['{', '.', '.', '.', '}'] else ['[', '.', '.', '.', ']'])

/-- Values with commas between them. -/
def shownItems : List Value → Text
  | [] => []
  | [last] => last.shown
  | first :: second :: rest => first.shown ++ ',' :: ' ' :: shownItems (second :: rest)

/-- Entries with commas between them. -/
def shownEntries : List (Value × Value) → Text
  | [] => []
  | [(key, value)] => key.shown ++ ':' :: ' ' :: value.shown
  | (key, value) :: second :: rest =>
    key.shown ++ ':' :: ' ' :: value.shown ++ ',' :: ' ' :: shownEntries (second :: rest)

end

/-! ## Messages -/

/-- The most digits that an integer is shown with. -/
def digitLimit : Nat := 4300

mutual

/-- Whether an integer of too many digits to be shown is part of a value. -/
def isTooLong : Value → Bool
  | .int value => Nat.pow 10 digitLimit ≤ value.natAbs
  | .list items | .set items => anyTooLong items
  | .pair first second => first.isTooLong || second.isTooLong
  | .mapping entries => anyEntryTooLong entries
  | _ => false

/-- Whether one of some values is too long to be shown. -/
def anyTooLong : List Value → Bool
  | [] => false
  | item :: rest => item.isTooLong || anyTooLong rest

/-- Whether a key or a value of some entries is too long to be shown. -/
def anyEntryTooLong : List (Value × Value) → Bool
  | [] => false
  | (key, value) :: rest => key.isTooLong || value.isTooLong || anyEntryTooLong rest

end

/-- The text of a message that shows a value between two texts. Where the value is too long to be shown,
the message says no more than that. -/
def message (before : Text) (value : Value) (after : Text) : Text :=
  if value.isTooLong then
    ("Exceeds the limit (4300 digits) for integer string conversion; " ++
      "use sys.set_int_max_str_digits() to increase the limit").toList
  else before ++ value.shown ++ after

end GrokEvents.Value
