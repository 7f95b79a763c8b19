/-
**Kinds of nodes.**

A tag names a kind of value. A plain scalar without a tag is of the kind that its text suggests: a
boolean, a number, null or a date, and else a text.
-/

import GrokEvents.Yaml.Node
import GrokEvents.Number.Numeral

namespace GrokEvents.Yaml

/-- A kind of value. -/
inductive Kind where
  | null
  | bool
  | int
  | real
  | binary
  | timestamp
  | omap
  | pairs
  | set
  | text
  | sequence
  | mapping
  /-- The mark of a key whose value is merged into the mapping. -/
  | merge
  /-- The mark of a key whose value stands for the mapping. -/
  | value
  /-- A kind that no value is known for. -/
  | unknown
deriving DecidableEq, Repr

/-- The kinds by the names of their tags. -/
def kindNames : List (Text × Kind) :=
  [("null".toList, .null), ("bool".toList, .bool), ("int".toList, .int), ("float".toList, .real),
   ("binary".toList, .binary), ("timestamp".toList, .timestamp), ("omap".toList, .omap),
   ("pairs".toList, .pairs), ("set".toList, .set), ("str".toList, .text), ("seq".toList, .sequence),
   ("map".toList, .mapping), ("merge".toList, .merge), ("value".toList, .value)]

/-- The kind that the name of a tag stands for. -/
def kindOfName (name : Text) : Kind :=
  match "tag:yaml.org,2002:".toList.isPrefixOf? name with
  | some short => (Entries.get? short kindNames).getD .unknown
  | none => .unknown

/-! ## What plain scalars suggest -/

/-- The words that are booleans. -/
def booleanWords : List String :=
  ["yes", "Yes", "YES", "no", "No", "NO", "true", "True", "TRUE", "false", "False", "FALSE", "on",
    "On", "ON", "off", "Off", "OFF"]

/-- A digit or an underscore. -/
def isDigitPart (char : Char) : Bool :=
  char.isDigit || char == '_'

/-- A digit, then digits and underscores. -/
def isSpacedDigits : Text → Bool
  | [] => false
  | char :: rest => char.isDigit && rest.all isDigitPart

/-- A part of a number in base sixty: up to two digits, the first of two less than six. -/
def isSixtieth : Text → Bool
  | [char] => char.isDigit
  | [tens, ones] => '0' ≤ tens && tens ≤ '5' && ones.isDigit
  | _ => false

/-- A signed exponent, or nothing. -/
def isExponent : Text → Bool
  | [] => true
  | mark :: sign :: digits =>
    (mark == 'e' || mark == 'E') && (sign == '+' || sign == '-') && !digits.isEmpty &&
      digits.all Char.isDigit
  | _ => false

/-- Whether a text looks like an integer: binary, octal, decimal, hexadecimal or in base sixty. -/
def looksInteger (text : Text) : Bool :=
  let unsigned := (Number.splitSign text).2
  match unsigned with
  | [] => false
  | '0' :: rest =>
    rest.isEmpty || rest.all (fun char => ('0' ≤ char && char ≤ '7') || char == '_') ||
      match rest with
      | 'b' :: digits => !digits.isEmpty && digits.all fun char =>
          char == '0' || char == '1' || char == '_'
      | 'x' :: digits => !digits.isEmpty && digits.all fun char =>
          Text.isHexDigit char || char == '_'
      | _ => false
  | _ =>
    match Text.splitOn ':' unsigned with
    | first :: parts => isSpacedDigits first && parts.all isSixtieth
    | [] => false

/-- Whether a text looks like a number with a point: decimal, in base sixty, infinite or none. -/
def looksReal (text : Text) : Bool :=
  let unsigned := (Number.splitSign text).2
  let isSigned := unsigned.length ≠ text.length
  if [".inf".toList, ".Inf".toList, ".INF".toList].contains unsigned then true
  else if [".nan".toList, ".NaN".toList, ".NAN".toList].contains text then true
  else
    match Text.run (· != '.') unsigned with
    | (_, []) => false
    | ([], _ :: rest) =>
      let (digits, tail) := Text.run isDigitPart rest
      !isSigned && isSpacedDigits digits && isExponent tail
    | (whole, _ :: rest) =>
      let (digits, tail) := Text.run isDigitPart rest
      match Text.splitOn ':' whole with
      | [first] => isSpacedDigits first && isExponent tail
      | first :: parts => isSpacedDigits first && parts.all isSixtieth && tail.isEmpty &&
          digits.all isDigitPart
      | [] => false

/-! ## Timestamps -/

/-- The parts of a timestamp as they are written. -/
structure TimestampText where
  year : Text
  month : Text
  day : Text
  /-- Hour, minute, second and the fraction of a second. -/
  time : Option (Text × Text × Text × Text) := none
  /-- The zone: whether the offset is negative, and its hours and minutes. -/
  zone : Option (Bool × Text × Text) := none
deriving DecidableEq, Repr

/-- One or two digits, and what follows them. -/
def upToTwoDigits? : Text → Option (Text × Text)
  | first :: second :: rest =>
    if first.isDigit then
      if second.isDigit then some ([first, second], rest) else some ([first], second :: rest)
    else none
  | [first] => if first.isDigit then some ([first], []) else none
  | [] => none

/-- Exactly two digits, and what follows them. -/
def twoDigits? : Text → Option (Text × Text)
  | first :: second :: rest =>
    if first.isDigit && second.isDigit then some ([first, second], rest) else none
  | _ => none

/-- What follows a character. -/
def after? (wanted : Char) : Text → Option Text
  | char :: rest => if char = wanted then some rest else none
  | [] => none

/-- The zone of a timestamp, to the end of the text. -/
def zoneText? (text : Text) : Option (Option (Bool × Text × Text)) :=
  match text.dropWhile isGap with
  | [] => if text.isEmpty then some none else none
  | ['Z'] => some (some (false, [], []))
  | sign :: rest =>
    if sign = '+' || sign = '-' then do
      let (hours, rest) ← upToTwoDigits? rest
      match rest with
      | [] => return some (sign = '-', hours, [])
      | _ =>
        let (minutes, rest) ← twoDigits? (← after? ':' rest)
        if rest.isEmpty then return some (sign = '-', hours, minutes) else none
    else none

/-- A timestamp: a date, or a date and a time after a letter or gap, with an optional zone. -/
def timestampText? (text : Text) : Option TimestampText := do
  let year := text.take 4
  if year.length ≠ 4 || !year.all Char.isDigit then none
  else
    let (month, rest) ← upToTwoDigits? (← after? '-' (text.drop 4))
    let (day, rest) ← upToTwoDigits? (← after? '-' rest)
    match rest with
    | [] => return { year, month, day }
    | char :: _ =>
      let rest := if char = 'T' || char = 't' then rest.drop 1 else rest.dropWhile isGap
      if char ≠ 'T' && char ≠ 't' && !isGap char then none
      else
        let (hour, rest) ← upToTwoDigits? rest
        let (minute, rest) ← twoDigits? (← after? ':' rest)
        let (second, rest) ← twoDigits? (← after? ':' rest)
        let (fraction, rest) :=
          match rest with
          | '.' :: rest => Text.run Char.isDigit rest
          | rest => ([], rest)
        let zone ← zoneText? rest
        return { year, month, day, time := some (hour, minute, second, fraction), zone }

/-- Whether a text looks like a timestamp: a bare date has all its digits. -/
def looksTimestamp (text : Text) : Bool :=
  match timestampText? text with
  | some parts => parts.time.isSome || (parts.month.length = 2 && parts.day.length = 2)
  | none => false

/-! ## Kinds of scalars -/

/-- The kind that the text of a plain scalar suggests. One line break at its end is no part of
the suggestion. -/
def kindOfPlain (text : Text) : Kind :=
  let text := if text.length ≠ 1 && text.getLast? = some '\n' then text.dropLast else text
  if booleanWords.any fun word => word.toList = text then .bool
  else if looksReal text then .real
  else if looksInteger text then .int
  else if text = ['<', '<'] then .merge
  else if text = [] || text = ['~'] || text = "null".toList || text = "Null".toList ||
      text = "NULL".toList then .null
  else if looksTimestamp text then .timestamp
  else if text = ['='] then .value
  else if text = ['!'] || text = ['&'] || text = ['*'] then .unknown
  else .text

/-- The kind of a node. -/
def Node.kind : Node → Kind
  | .scalar .absent text plain => if plain then kindOfPlain text else .text
  | .scalar .nonSpecific text _ => kindOfPlain text
  | .sequence .absent _ | .sequence .nonSpecific _ => .sequence
  | .mapping .absent _ | .mapping .nonSpecific _ => .mapping
  | .scalar (.full name) _ _ | .sequence (.full name) _ | .mapping (.full name) _ =>
    kindOfName name
  | .again isMapping => if isMapping then .mapping else .sequence

end GrokEvents.Yaml
