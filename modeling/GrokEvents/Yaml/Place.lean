/-
**Places in a document.**

A place knows what is left of the document, how much has been read, and its line and column. Line
breaks are the line feed, the carriage return, the next-line control and the two Unicode
separators.
-/

import GrokEvents.Yaml.Fault

namespace GrokEvents.Yaml

/-! ## Characters -/

/-- Whether a document may hold a character. -/
def isReadable (char : Char) : Bool :=
  let code := char.toNat
  code == 9 || code == 10 || code == 13 || (32 ≤ code && code ≤ 126) || code == 0x85 ||
    (0xA0 ≤ code && code ≤ 0xFFFD) || 0x10000 ≤ code

/-- A line break. -/
def isBreak (char : Char) : Bool :=
  char == '\n' || char == '\r' || char == '\u0085' || char == '\u2028' || char == '\u2029'

/-- A space or a tab. -/
def isGap (char : Char) : Bool :=
  char == ' ' || char == '\t'

/-- A character of names: an ASCII letter or digit, a hyphen or an underscore. -/
def isNameChar (char : Char) : Bool :=
  char.isAlphanum || char == '-' || char == '_'

/-- A character of tags, less the percent sign. -/
def isTagChar (char : Char) : Bool :=
  char.isAlphanum || "-;/?:@&=+$,_.!~*'()[]".toList.contains char

/-! ## Places -/

/-- A place in a document. -/
structure Place where
  rest : Text
  index : Nat := 0
  line : Nat := 0
  column : Nat := 0
deriving DecidableEq, Repr

namespace Place

/-- The character at a place. -/
def peek? (place : Place) : Option Char :=
  place.rest.head?

/-- The character so many places on. -/
def ahead? (place : Place) (count : Nat) : Option Char :=
  place.rest[count]?

/-- The next place. A carriage return before a line feed breaks no line of its own, and a byte
order mark takes no column. -/
def next (place : Place) : Place :=
  match place.rest with
  | [] => place
  | char :: rest =>
    if isBreak char && !(char == '\r' && rest.head? == some '\n') then
      ⟨rest, place.index + 1, place.line + 1, 0⟩
    else if char == '\ufeff' then ⟨rest, place.index + 1, place.line, place.column⟩
    else ⟨rest, place.index + 1, place.line, place.column + 1⟩

/-- The place so many characters on. -/
def advance : Nat → Place → Place
  | 0, place => place
  | count + 1, place => advance count place.next

/-- A run of characters that pass a test, and the place after it. -/
def run (place : Place) (test : Char → Bool) : Text × Place :=
  let taken := place.rest.takeWhile test
  (taken, place.advance taken.length)

/-- The place after a run of characters that pass a test. -/
def skip (place : Place) (test : Char → Bool) : Place :=
  (place.run test).2

/-- Whether the document, its line or a word ends so many places on. -/
def endsAt (place : Place) (count : Nat) : Bool :=
  (place.ahead? count).all fun char => isGap char || isBreak char

/-- Whether the document or its line ends here, or a space comes. -/
def atSpaceOrEnd (place : Place) : Bool :=
  place.peek?.all fun char => char == ' ' || isBreak char

/-- Whether a line of three hyphens or three dots starts here. -/
def atDocumentMark (place : Place) (mark : Char) : Bool :=
  place.rest.take 3 == [mark, mark, mark] && place.endsAt 3

/-- Whether the mark of a document's start or end stands here. -/
def atAnyDocumentMark (place : Place) : Bool :=
  place.atDocumentMark '-' || place.atDocumentMark '.'

/-- The line break at a place, and the place after it; breaks that are not Unicode separators
are line feeds. -/
def lineBreak? (place : Place) : Option (Char × Place) :=
  match place.rest with
  | '\r' :: '\n' :: _ => some ('\n', place.advance 2)
  | char :: _ =>
    if char == '\u2028' || char == '\u2029' then some (char, place.next)
    else if isBreak char then some ('\n', place.next)
    else none
  | [] => none

/-- The place after spaces and a comment. -/
def skipComment (place : Place) : Place :=
  let place := place.skip (· == ' ')
  if place.peek? == some '#' then place.skip fun char => !isBreak char else place

/-- The place after the rest of a line that may hold a comment only. -/
def endLine (place : Place) : Except Fault Place :=
  let place := place.skipComment
  match place.lineBreak? with
  | some (_, place) => .ok place
  | none => if place.rest.isEmpty then .ok place else .error .malformed

end Place

end GrokEvents.Yaml
