/-
**Leaves of an event.**

How the value of a leaf is found among the fields of a line, and how it is converted.

* `firstPresent_ne_nil`: a value that is found is not empty.
-/

import GrokEvents.Filter.Fields
import GrokEvents.Number.Numeral

namespace GrokEvents.Event

/-- The first value that is not empty among the fields under the given names. -/
def firstPresent (fields : Fields) : List Text → Option Text
  | [] => none
  | name :: names =>
    match Entries.get? name fields with
    | none | some [] => firstPresent fields names
    | some value => some value

theorem firstPresent_ne_nil {fields : Fields} {names : List Text} {value : Text}
    (found : firstPresent fields names = some value) : value ≠ [] := by
  fun_induction firstPresent fields names with
  | case1 => simp at found
  | case2 name names _ ih => exact ih found
  | case3 name names _ ih => exact ih found
  | case4 name names value' nonempty equal =>
    obtain rfl := Option.some.inj found
    intro empty
    simp_all

/-! ## Integers -/

/-- The most digits that are read as an integer. -/
def digitLimit : Nat := 20

/-- Whether a text is an optional sign and digits, behind which one line break may stand. -/
def isNumeral (text : Text) : Bool :=
  let line := if text.getLast? = some '\n' then text.dropLast else text
  let unsigned :=
    match line with
    | '+' :: digits => digits
    | '-' :: digits => digits
    | digits => digits
  !unsigned.isEmpty && unsigned.all Char.isDigit

/-- The digits of a numeral. -/
def unsignedPart : Text → Text
  | '+' :: rest => unsignedPart rest
  | '-' :: rest => unsignedPart rest
  | digits => digits

/-- The integer that a text denotes between white space, unless it has too many digits. -/
def toInt (text : Text) : Logged (Option Int) :=
  let trimmed := Text.trim text
  if !isNumeral trimmed then do
    Logged.note .notNumeric
    return none
  else if digitLimit < (unsignedPart trimmed).length then do
    Logged.note .tooManyDigits
    return none
  else
    match Number.integerValue? trimmed with
    | some number => return some number
    | none => do
      Logged.note .notConverted
      return none

/-- The integer of a value that may be missing. -/
def toInt? : Option Text → Logged (Option Int)
  | none => pure none
  | some text => toInt text

/-! ## Quotes -/

/-- A text less one double quote at its start and one at its end. -/
def stripQuotes (text : Text) : Text :=
  let opened :=
    match text with
    | '"' :: rest => rest
    | _ => text
  if opened.getLast? = some '"' then opened.dropLast else opened

end GrokEvents.Event
