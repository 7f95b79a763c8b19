/-
**Reading JSON.**

A document is read by descent. A number has no zero before other digits; without a point and an
exponent it is an integer, any other is real; three words stand for the numbers that have no digits.
A name that an object gives twice keeps its first place and takes its last value.

* `readText?_quote`: a quote ends a text.
* `read?`: the value of a document.
-/

import GrokEvents.Json.Basic
import GrokEvents.Number.Numeral

namespace GrokEvents.Json

/-! ## Texts -/

/-- The characters that stand for another one after a backslash. -/
def escaped? : Char → Option Char
  | '"' => some '"'
  | '\\' => some '\\'
  | '/' => some '/'
  | 'b' => some '\x08'
  | 'f' => some '\x0c'
  | 'n' => some '\n'
  | 'r' => some '\r'
  | 't' => some '\t'
  | _ => none

/-- The value of a run of hexadecimal digits. -/
def hexadecimal? (digits : Text) : Option Nat :=
  if digits.all Text.isHexDigit then some (Text.toNat 16 digits) else none

/-- Whether a UTF-16 unit is the first half of a pair. -/
def isFirstHalf (unit : Nat) : Bool :=
  0xD800 ≤ unit && unit < 0xDC00

/-- Whether a UTF-16 unit is the second half of a pair. -/
def isSecondHalf (unit : Nat) : Bool :=
  0xDC00 ≤ unit && unit < 0xE000

/-- The character of a UTF-16 unit after the first half of a pair, where there is one. Halves go in
pairs only. -/
def ofUnit? : (half : Option Nat) → (unit : Nat) → Option Char
  | some first, unit =>
    if isSecondHalf unit then
      some (Char.ofNat (0x10000 + (first - 0xD800) * 0x400 + (unit - 0xDC00)))
    else none
  | none, unit => if isSecondHalf unit then none else some (Char.ofNat unit)

/-- The text up to its closing quote, and what follows; `half` is the first half of a pair just
read. -/
def readText? : (half : Option Nat) → Text → Option (Text × Text)
  | half, '\\' :: 'u' :: a :: b :: c :: d :: rest =>
    match hexadecimal? [a, b, c, d] with
    | none => none
    | some unit =>
      if half.isNone && isFirstHalf unit then readText? (some unit) rest
      else
        match ofUnit? half unit, readText? none rest with
        | some char, some (chars, left) => some (char :: chars, left)
        | _, _ => none
  | none, '\\' :: char :: rest =>
    match escaped? char, readText? none rest with
    | some char, some (chars, left) => some (char :: chars, left)
    | _, _ => none
  | none, '"' :: rest => some ([], rest)
  | none, char :: rest =>
    if char.toNat < 32 then none
    else (readText? none rest).map fun (chars, left) => (char :: chars, left)
  | _, _ => none

theorem readText?_quote (rest : Text) : readText? none ('"' :: rest) = some ([], rest) := by
  simp [readText?]

/-! ## Numbers -/

/-- The places after a point, where they come next. -/
def readPlaces : Text → Option Text × Text
  | '.' :: rest =>
    match Text.run Char.isDigit rest with
    | ([], _) => (none, '.' :: rest)
    | (places, left) => (some places, left)
  | rest => (none, rest)

/-- The exponent that comes next, where one does. -/
def readExponent : Text → Option Int × Text
  | mark :: rest =>
    let (negative, unsigned) := Number.splitSign rest
    match mark == 'e' || mark == 'E', Text.run Char.isDigit unsigned with
    | true, (digit :: digits, left) =>
      let value : Int := Text.toNat 10 (digit :: digits)
      (some (if negative then -value else value), left)
    | _, _ => (none, mark :: rest)
  | [] => (none, [])

/-- The whole part of a number, where one comes next: a zero alone, or digits that start with
another one. -/
def readWhole : Text → Text × Text
  | '0' :: rest => (['0'], rest)
  | digits => Text.run Char.isDigit digits

/-- A number without its sign. -/
def readUnsigned? (negative : Bool) (text : Text) : Option (Json × Text) :=
  match readWhole text with
  | ([], _) => none
  | (whole, rest) =>
    let (places, rest) := readPlaces rest
    let (exponent, rest) := readExponent rest
    if places.isNone && exponent.isNone then
      let value : Int := Text.toNat 10 whole
      some (.int (if negative then -value else value), rest)
    else
      let places := places.getD []
      let value :=
        Number.ofDecimal (Text.toNat 10 (whole ++ places)) (exponent.getD 0 - places.length)
      some (.real (if negative then -value else value), rest)

/-- A number. -/
def readNumber? : Text → Option (Json × Text)
  | '-' :: rest => readUnsigned? true rest
  | rest => readUnsigned? false rest

/-! ## Values -/

/-- The values that are words. -/
def words : List (String × Json) :=
  [("null", .null), ("true", .bool true), ("false", .bool false), ("NaN", .real (0.0 / 0.0)),
   ("Infinity", .real (1.0 / 0.0)), ("-Infinity", .real (-1.0 / 0.0))]

/-- A value that is a word. -/
def readWord? (text : Text) : Option (Json × Text) :=
  words.findSome? fun word => (word.1.toList.isPrefixOf? text).map fun rest => (word.2, rest)

/-- The text less the white space before it. -/
def skipSpace (text : Text) : Text :=
  text.dropWhile fun char => char = ' ' || char = '\n' || char = '\r' || char = '\t'

mutual

/-- A value, and what follows it. -/
def readValue? : (fuel : Nat) → Text → Option (Json × Text)
  | 0, _ => none
  | fuel + 1, source =>
    match skipSpace source with
    | '"' :: rest => (readText? none rest).map fun (chars, left) => (.text chars, left)
    | '[' :: rest =>
      match skipSpace rest with
      | ']' :: left => some (.array [], left)
      | rest => (readItems? fuel rest).map fun (items, left) => (.array items, left)
    | '{' :: rest =>
      match skipSpace rest with
      | '}' :: left => some (.object [], left)
      | rest =>
        (readMembers? fuel rest).map fun (members, left) =>
          (.object (Entries.ofList members), left)
    | rest => (readWord? rest).or (readNumber? rest)

/-- The items of an array, and what follows its closing bracket. -/
def readItems? : (fuel : Nat) → Text → Option (List Json × Text)
  | 0, _ => none
  | fuel + 1, source => do
    let (item, rest) ← readValue? fuel source
    match skipSpace rest with
    | ']' :: left => return ([item], left)
    | ',' :: rest =>
      let (items, left) ← readItems? fuel rest
      return (item :: items, left)
    | _ => none

/-- The members of an object, and what follows its closing brace. -/
def readMembers? : (fuel : Nat) → Text → Option (List (Text × Json) × Text)
  | 0, _ => none
  | fuel + 1, source => do
    let (name, rest) ← match skipSpace source with
      | '"' :: rest => readText? none rest
      | _ => none
    let (value, rest) ← match skipSpace rest with
      | ':' :: rest => readValue? fuel rest
      | _ => none
    match skipSpace rest with
    | '}' :: left => return ([(name, value)], left)
    | ',' :: rest =>
      let (members, left) ← readMembers? fuel rest
      return ((name, value) :: members, left)
    | _ => none

end

/-- The value of a document. Each value and each member takes a step, and two characters at least
go with a step into an array or object. -/
def read? (text : Text) : Option Json :=
  match readValue? (2 * text.length + 2) text with
  | some (value, rest) => if (skipSpace rest).isEmpty then some value else none
  | none => none

end GrokEvents.Json
