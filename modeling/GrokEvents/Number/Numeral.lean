/-
**Reading numerals.**

Integers in any base up to sixteen and decimal numbers, as they may be written inside a text: with
white space around, a sign, digits of any script, and single underscores between digits.
-/

import GrokEvents.Text.Blank
import GrokEvents.Text.Digit
import GrokEvents.Number.Shortest

namespace GrokEvents.Number

open Text

/-- A text with the decimal digits of all scripts as ASCII digits. -/
def plainDigits (text : Text) : Text :=
  text.map fun char =>
    match digitValue? char with
    | some value => Char.ofNat (48 + value)
    | none => char

/-- A sign and what follows it. -/
def splitSign : Text → Bool × Text
  | '-' :: rest => (true, rest)
  | '+' :: rest => (false, rest)
  | text => (false, text)

/-- The digits of a text without the single underscores between them. -/
def joined? (text : Text) : Option Text :=
  let pieces := splitOn '_' text
  if pieces.any List.isEmpty then none else some pieces.flatten

/-- The value of a character as a digit of a base. -/
def isDigitOf (base : Nat) (char : Char) : Bool :=
  char.isAlphanum && digitOf char < base

/-- The letter that marks a base. -/
def baseMark : Nat → Char
  | 2 => 'b'
  | 8 => 'o'
  | _ => 'x'

/-- What follows the mark of a base, which may be written in either case and before an
underscore. -/
def afterMark (base : Nat) (text : Text) : Text :=
  if base = 10 then text
  else
    match text with
    | '0' :: mark :: '_' :: rest =>
      if mark.toLower = baseMark base then rest else text
    | '0' :: mark :: rest => if mark.toLower = baseMark base then rest else text
    | _ => text

/-- The digits of an integer in a base, and whether it is negative. -/
def integerDigits? (base : Nat) (text : Text) : Option (Bool × Text) :=
  let (negative, unsigned) := splitSign (plainDigits (trim text))
  match joined? (afterMark base unsigned) with
  | some digits => if digits.all (isDigitOf base) then some (negative, digits) else none
  | none => none

/-- The most digits that are read as an integer in base ten. -/
def digitLimit : Nat := 4300

/-- The integer that a text denotes in base ten, unless it has too many digits. -/
def integerValue? (text : Text) : Option Int :=
  match integerDigits? 10 text with
  | none => none
  | some (negative, digits) =>
    if digitLimit < digits.length then none
    else
      let size : Int := toNat 10 digits
      some (if negative then -size else size)

/-- The value of an exponent, with an optional sign. -/
def exponent? (text : Text) : Option Int :=
  let (negative, digits) := splitSign text
  match joined? digits with
  | some digits =>
    if digits.all Char.isDigit then
      let value : Int := toNat 10 digits
      some (if negative then -value else value)
    else none
  | none => none

/-- The value of a run of digits that may be empty. -/
def digitRun? (text : Text) : Option Text :=
  if text.isEmpty then some [] else (joined? text).filter fun digits => digits.all Char.isDigit

/-- An unsigned decimal number: digits, a point and digits, an exponent. Of the digits around the
point, some have to be there. -/
def unsignedReal? (text : Text) : Option Float := do
  let (mantissa, tail) := run (fun char => char != 'e' && char != 'E') text
  let (whole, point) := run (· != '.') mantissa
  let whole ← digitRun? whole
  let part ← digitRun? (point.drop 1)
  let exponent ← if tail.isEmpty then some 0 else exponent? (tail.drop 1)
  if whole.isEmpty && part.isEmpty then none
  else some (ofDecimal (toNat 10 (whole ++ part)) (exponent - part.length))

/-- A number as it may be written: a decimal number, an infinity or no number, after a sign. -/
def real? (text : Text) : Option Float :=
  let (negative, unsigned) := splitSign (plainDigits (trim text))
  let lower := unsigned.map Char.toLower
  let size :=
    if lower = "inf".toList || lower = "infinity".toList then some (1.0 / 0.0)
    else if lower = "nan".toList then some (0.0 / 0.0)
    else unsignedReal? unsigned
  size.map fun value => if negative then -value else value

end GrokEvents.Number
