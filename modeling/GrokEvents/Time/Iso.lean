/-
**Reading ISO 8601 dates and times.**

Calendar dates and week dates, with or without hyphens; after any one character a time of day,
with or without colons, with a fraction of a second and an offset. Places are counted in bytes of
the UTF-8 form, so the first step lays each character out over as many places as it has bytes. The
NUL character counts as the end of the text where something else might follow.

* `places_of_ascii`: an ASCII text keeps its places.
-/

import GrokEvents.Time.Calendar

namespace GrokEvents.Time.Iso

/-! ## Places -/

/-- The text with each character over as many places as it has bytes. -/
def places (text : Text) : Text :=
  text.flatMap fun char => List.replicate char.utf8Size char

theorem places_of_ascii {text : Text} (ascii : ∀ char ∈ text, char.utf8Size = 1) :
    places text = text := by
  induction text with
  | nil => rfl
  | cons char rest ih =>
    have first := ascii char (by simp)
    have others := ih fun next member => ascii next (by simp [member])
    simp only [places] at others ⊢
    simp [first, others]

/-- Reads exactly so many digits. -/
def digits? (count : Nat) (text : Text) : Option (Nat × Text) :=
  let taken := text.take count
  if taken.length = count && taken.all Char.isDigit then
    some (Text.toNat 10 taken, text.drop count)
  else none

/-- Whether the text goes on after a place, with something other than NUL. -/
def goesOn (text : Text) (following : Char) : Bool :=
  text.head?.getD following != '\x00'

/-! ## Dates -/

/-- The place of the character between date and time. A hyphen after a week is that character when
a digit stands two places on; digits right after a week belong to the time in pairs. -/
def separatorPlace? (text : Text) : Option Nat :=
  let at? (place : Nat) := text[place]?
  let length := text.length
  if length = 7 then some 7
  else if at? 4 = some '-' then
    if at? 5 = some 'W' then
      if at? 8 = some '-' then
        if length = 9 then none
        else if (at? 10).any Char.isDigit then some 8
        else some 10
      else some 8
    else some 10
  else if at? 4 = some 'W' then
    let place := 7 + ((text.drop 7).takeWhile Char.isDigit).length
    if place < 9 then some place
    else if place % 2 = 0 then some 7
    else some 8
  else some 8

/-- A hyphen, where hyphens are in use. -/
def hyphen? (inUse : Bool) (text : Text) : Option Text :=
  if inUse then
    match text with
    | '-' :: rest => some rest
    | _ => none
  else some text

/-- The date in the first `length` places of a text. -/
def date? (text : Text) (length : Nat) : Option Date := do
  let (year, rest) ← digits? 4 text
  let hyphens := rest.head? = some '-'
  let rest := if hyphens then rest.drop 1 else rest
  match rest with
  | 'W' :: rest =>
    let (week, rest) ← digits? 2 rest
    if text.length - rest.length < length then
      let rest ← hyphen? hyphens rest
      let (weekday, _) ← digits? 1 rest
      Date.ofWeek? year week weekday
    else Date.ofWeek? year week 1
  | _ =>
    let (month, rest) ← digits? 2 rest
    let rest ← hyphen? hyphens rest
    let (day, rest) ← digits? 2 rest
    if text.length - rest.length = length then some ⟨year, month, day⟩ else none

/-! ## Times of day -/

/-- A fraction of a second: up to six digits count, further ones are passed over. Also whether
something follows. -/
def fraction? (text : Text) (following : Char) : Option (Nat × Bool) := do
  let count := min text.length 6
  let (value, rest) ← digits? count text
  return (value * Nat.pow 10 (6 - count), goesOn (rest.dropWhile Char.isDigit) following)

/-- The parts of a time of day that have been read, the last first, and whether something follows.
-/
structure Parts where
  pairs : List Nat
  microsecond : Nat
  followed : Bool
deriving DecidableEq, Repr

/-- Reads up to `count` more pairs of digits, then a fraction. Colons are in use throughout or not
at all, as after the first pair (`colons` is `none` before it). -/
def parts? (following : Char) : (count : Nat) → (colons : Option Bool) → List Nat → Text →
    Option Parts
  | 0, _, pairs, text => do
    let (microsecond, followed) ← fraction? text following
    return ⟨pairs, microsecond, followed⟩
  | count + 1, colons, pairs, text => do
    let (value, rest) ← digits? 2 text
    match rest with
    | [] | [_] => return ⟨value :: pairs, 0, goesOn rest following⟩
    | char :: more =>
      let separated := colons.getD (char = ':')
      if separated && char = ':' then parts? following count (some separated) (value :: pairs) more
      else if char = '.' || char = ',' then
        let (microsecond, followed) ← fraction? more following
        return ⟨value :: pairs, microsecond, followed⟩
      else if separated then none
      else parts? following count (some separated) (value :: pairs) rest

/-- A time of day that ends before the character `following`, and whether something follows it. -/
def timeOfDay? (text : Text) (following : Char) : Option (TimeOfDay × Bool) := do
  let parts ← parts? following 3 none [] text
  let pairs := parts.pairs.reverse
  return (⟨pairs.getD 0 0, pairs.getD 1 0, pairs.getD 2 0, parts.microsecond⟩, parts.followed)

/-- Whether a character starts a zone. -/
def startsZone (char : Char) : Bool :=
  char = '+' || char = '-' || char = 'Z'

/-- The offset of a zone, in microseconds. Offsets of less than a second count as none. -/
def zone? (sign : Char) (text : Text) : Option Int := do
  if sign = 'Z' then
    if goesOn text '\x00' then none else some 0
  else
    let (time, followed) ← timeOfDay? text '\x00'
    if followed then none
    else
      let seconds := time.hour * 3600 + time.minute * 60 + time.second
      let size := if seconds = 0 then 0 else seconds * 1000000 + time.microsecond
      if microsecondsPerDay ≤ size then none
      else some (if sign = '-' then -(size : Int) else size)

/-- A time of day with an optional offset. What follows the time of day matters only without one. -/
def time? (text : Text) : Option (TimeOfDay × Option Int) := do
  let body := text.takeWhile fun char => !startsZone char
  match text.dropWhile fun char => !startsZone char with
  | [] =>
    let (time, followed) ← timeOfDay? body '\x00'
    if followed then none else some (time, none)
  | sign :: rest =>
    let (time, _) ← timeOfDay? body sign
    return (time, some (← zone? sign rest))

/-! ## Moments -/

/-- The moment that a text denotes. -/
def moment? (text : Text) : Option Moment := do
  let text := places text
  if text.length < 7 then none
  else
    let place ← separatorPlace? text
    let date ← date? text place
    let (time, offset) ←
      if text.length ≤ place then some ({}, none)
      else time? (text.drop (place + (text[place]?.map Char.utf8Size).getD 1))
    if date.fault?.isSome || time.fault?.isSome then none
    else some ⟨date, time, offset⟩

end GrokEvents.Time.Iso
