/-
**Printing JSON.**

Documents are printed in ASCII, two spaces to a level, each member on a line of its own.
Characters beyond ASCII are escaped by their UTF-16 units, so that one beyond the basic plane
takes two escapes.

* `printText`: a text in its quotes.
* `print`: a document.
-/

import GrokEvents.Json.Basic
import GrokEvents.Number.Shortest

namespace GrokEvents.Json

/-! ## Texts -/

/-- The escape of a UTF-16 unit. -/
def unitEscape (unit : Nat) : Text :=
  '\\' :: 'u' :: Text.hexadecimal 4 unit

/-- A character inside a printed text. -/
def escapedChar (char : Char) : Text :=
  if char = '"' then ['\\', '"']
  else if char = '\\' then ['\\', '\\']
  else if char = '\n' then ['\\', 'n']
  else if char = '\r' then ['\\', 'r']
  else if char = '\t' then ['\\', 't']
  else if char = '\x08' then ['\\', 'b']
  else if char = '\x0c' then ['\\', 'f']
  else if 32 ≤ char.toNat && char.toNat < 127 then [char]
  else if char.toNat < 0x10000 then unitEscape char.toNat
  else
    let above := char.toNat - 0x10000
    unitEscape (0xD800 + above / 0x400) ++ unitEscape (0xDC00 + above % 0x400)

/-- A text in its quotes. -/
def printText (text : Text) : Text :=
  '"' :: text.flatMap escapedChar ++ ['"']

/-! ## Values -/

/-- A line break and the spaces of a level. -/
def newline (level : Nat) : Text :=
  '\n' :: List.replicate (2 * level) ' '

mutual

/-- A value at a level of nesting. -/
def printAt (level : Nat) : Json → Text
  | .null => "null".toList
  | .bool value => (if value then "true" else "false").toList
  | .int value => Text.ofInt value
  | .real value => Number.documentStyle.ofBits value.toBits.toNat
  | .text value => printText value
  | .array [] => ['[', ']']
  | .array (first :: rest) =>
    '[' :: newline (level + 1) ++ printAt (level + 1) first ++ printItems (level + 1) rest ++
      newline level ++ [']']
  | .object [] => ['{', '}']
  | .object ((name, first) :: rest) =>
    '{' :: newline (level + 1) ++ printText name ++ ':' :: ' ' :: printAt (level + 1) first ++
      printMembers (level + 1) rest ++ newline level ++ ['}']

/-- The items after the first. -/
def printItems (level : Nat) : List Json → Text
  | [] => []
  | item :: rest => ',' :: newline level ++ printAt level item ++ printItems level rest

/-- The members after the first. -/
def printMembers (level : Nat) : List (Text × Json) → Text
  | [] => []
  | (name, value) :: rest =>
    ',' :: newline level ++ printText name ++ ':' :: ' ' :: printAt level value ++
      printMembers level rest

end

/-- A document. -/
def print (value : Json) : Text :=
  printAt 0 value

end GrokEvents.Json
