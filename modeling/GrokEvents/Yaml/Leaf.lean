/-
**Values of scalars.**

How the text of a scalar becomes a value of its kind, and how that can fail.
-/

import GrokEvents.Yaml.Kind

namespace GrokEvents.Yaml

open Number (splitSign)

/-! ## Numbers -/

/-- An integer in a base. -/
def integerIn (base : Nat) (text : Text) : Except Fault Int :=
  match Number.integerDigits? base text with
  | none => .error (.notInteger base text)
  | some (negative, digits) =>
    if base = 10 && 4300 < digits.length then .error (.numeralTooLong digits.length)
    else
      let size : Int := Text.toNat base digits
      .ok (if negative then -size else size)

/-- The sum of parts in base sixty, the last part counting ones. -/
def inSixties (parts : List Int) : Int :=
  parts.foldl (fun total part => total * 60 + part) 0

/-- The integer of a scalar: binary after `0b`, hexadecimal after `0x`, octal after `0`, with
colons in base sixty, and else decimal. -/
def integerOf (text : Text) : Except Fault Int := do
  let written := text.filter (· != '_')
  let (negative, unsigned) := splitSign written
  let size ←
    match unsigned with
    | [] => .error .emptyNumber
    | ['0'] => .ok 0
    | '0' :: 'b' :: digits => integerIn 2 digits
    | '0' :: 'x' :: digits => integerIn 16 digits
    | '0' :: _ => integerIn 8 unsigned
    | _ =>
      if unsigned.contains ':' then
        (((Text.splitOn ':' unsigned).mapM (integerIn 10)).map inSixties)
      else integerIn 10 unsigned
  return if negative then -size else size

/-- A decimal number. -/
def realIn (text : Text) : Except Fault Float :=
  match Number.real? text with
  | some value => .ok value
  | none => .error (.notReal text)

/-- The sum of parts in base sixty from the last one on, which counts `base`. -/
def realInSixties (base : Float) : List Float → Float → Float
  | [], total => total
  | part :: rest, total => realInSixties (base * 60.0) rest (total + part * base)

/-- The number of a scalar, with colons in base sixty. -/
def realOf (text : Text) : Except Fault Float := do
  let written := (text.filter (· != '_')).map Char.toLower
  let (negative, unsigned) := splitSign written
  if written.isEmpty then .error .emptyNumber
  else
    let size ←
      if unsigned = ".inf".toList then .ok (1.0 / 0.0)
      else if unsigned = ".nan".toList then .ok (0.0 / 0.0)
      else if unsigned.contains ':' then do
        let parts ← (Text.splitOn ':' unsigned).mapM realIn
        pure (realInSixties 1.0 parts.reverse 0.0)
      else realIn unsigned
    return if negative then -size else size

/-! ## Bytes -/

/-- The value of a character in base sixty-four. -/
def sextet? (char : Char) : Option Nat :=
  if char.isUpper then some (char.toNat - 65)
  else if char.isLower then some (char.toNat - 71)
  else if char.isDigit then some (char.toNat + 4)
  else if char = '+' then some 62
  else if char = '/' then some 63
  else none

/-- The bytes that sextets stand for, of which `held` are held back in `left`, after `pads` signs of
padding. Other characters are passed over; padding ends the bytes of a group begun. -/
def bytesFrom : (held left pads : Nat) → Text → Option (List Nat)
  | held, _, _, [] => if held = 0 then some [] else none
  | held, left, pads, char :: rest =>
    if char = '=' then
      if 2 ≤ held && 4 ≤ held + pads + 1 then some []
      else bytesFrom held left (if 2 ≤ held then pads + 1 else pads) rest
    else
      match sextet? char with
      | none => bytesFrom held left pads rest
      | some value =>
        match held with
        | 0 => bytesFrom 1 value 0 rest
        | 1 => (bytesFrom 2 (value % 16) 0 rest).map ((left * 4 + value / 16) :: ·)
        | 2 => (bytesFrom 3 (value % 4) 0 rest).map ((left * 16 + value / 4) :: ·)
        | _ => (bytesFrom 0 0 0 rest).map ((left * 64 + value) :: ·)

/-- The bytes of a scalar. -/
def bytesOf (text : Text) : Except Fault (List Nat) :=
  if text.any fun char => 128 ≤ char.toNat then .error .malformed
  else
    match bytesFrom 0 0 0 text with
    | some bytes => .ok bytes
    | none => .error .malformed

/-! ## Booleans and dates -/

/-- The boolean of a scalar, in any case of its letters. -/
def booleanOf (text : Text) : Except Fault Bool :=
  let lower := text.map Char.toLower
  if ["yes".toList, "true".toList, "on".toList].contains lower then .ok true
  else if ["no".toList, "false".toList, "off".toList].contains lower then .ok false
  else .error (.notBoolean lower)

/-- The microseconds of a zone, which has to be less than a day away. -/
def zoneOf (negative : Bool) (hours minutes : Text) : Except Fault Int :=
  let size : Int := (Text.toNat 10 hours * 60 + Text.toNat 10 minutes) * 60000000
  let offset := if negative then -size else size
  if size < Time.microsecondsPerDay then .ok offset else .error (.offsetOutOfRange offset)

/-- The date or moment of a scalar. -/
def timestampOf (text : Text) : Except Fault Value := do
  let text := if text.getLast? = some '\n' then text.dropLast else text
  match timestampText? text with
  | none => .error .notTimestamp
  | some parts =>
    let date : Time.Date :=
      ⟨Text.toNat 10 parts.year, Text.toNat 10 parts.month, Text.toNat 10 parts.day⟩
    let dateFault : Except Fault Unit :=
      match date.fault? with
      | some fault => .error (.dateOutOfRange fault date.year)
      | none => .ok ()
    match parts.time with
    | none => do
      dateFault
      return .date date
    | some (hour, minute, second, fraction) =>
      let six := (fraction ++ List.replicate 6 '0').take 6
      let time : Time.TimeOfDay :=
        ⟨Text.toNat 10 hour, Text.toNat 10 minute, Text.toNat 10 second, Text.toNat 10 six⟩
      let offset ←
        match parts.zone with
        | none => pure none
        | some (negative, hours, minutes) => do pure (some (← zoneOf negative hours minutes))
      dateFault
      match time.fault? with
      | some fault => .error (.timeOutOfRange fault)
      | none => return .moment ⟨date, time, offset⟩

/-! ## Leaves -/

/-- The value of a scalar of a kind; collections and marks have none. -/
def leafValue (kind : Kind) (text : Text) : Except Fault Value :=
  match kind with
  | .null => .ok .null
  | .bool => (booleanOf text).map .bool
  | .int => (integerOf text).map .int
  | .real => (realOf text).map .real
  | .binary => (bytesOf text).map .bytes
  | .timestamp => timestampOf text
  | .text => .ok (.text text)
  | _ => .error .malformed

end GrokEvents.Yaml
