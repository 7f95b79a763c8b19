/-
**Escapes and sets.**

How the lexeme of a backslash and a character is read, outside of a set and within one, and how a
set between square brackets is read.

* `readSet`: the items of a set.
-/

import GrokEvents.Expr.Lexeme
import GrokEvents.Expr.CharSet
import GrokEvents.Expr.Flaw

namespace GrokEvents.Expr

/-- A flaw of the text's form. -/
def malformed {Value : Type} (cause : Malformed) : Except Flaw Value :=
  .error (.malformed cause)

/-! ## Digits -/

/-- An octal digit. -/
def isOctal (char : Char) : Bool :=
  '0' ≤ char && char ≤ '7'

/-! ## Escapes that mean the same everywhere -/

/-- The code points of the letters that stand for a control character. -/
def controlCode? : Char → Option Nat
  | 'a' => some 7
  | 'f' => some 12
  | 'n' => some 10
  | 'r' => some 13
  | 't' => some 9
  | 'v' => some 11
  | '\\' => some 92
  | _ => none

/-- The letters that stand for a kind of characters, or for all others. -/
def kindItem? : Char → Option SetItem
  | 'd' => some (.kind .digit false)
  | 'D' => some (.kind .digit true)
  | 's' => some (.kind .blank false)
  | 'S' => some (.kind .blank true)
  | 'w' => some (.kind .word false)
  | 'W' => some (.kind .word true)
  | _ => none

/-- How many hexadecimal digits follow a letter. -/
def hexDigits? : Char → Option Nat
  | 'x' => some 2
  | 'u' => some 4
  | 'U' => some 8
  | _ => none

/-- A code point written with `count` hexadecimal digits. -/
def readHex (count : Nat) (rest : List Lexeme) : Except Flaw (Nat × List Lexeme) :=
  let (digits, left) := takePlain Text.isHexDigit count rest
  let code := Text.toNat 16 digits
  if digits.length < count then malformed .incompleteEscape
  else if 0x10FFFF < code then malformed .badEscape
  else .ok (code, left)

/-- An escaped character that stands for itself: no ASCII letter and no digit. -/
def readItself (char : Char) (rest : List Lexeme) : Except Flaw (Nat × List Lexeme) :=
  if char = 'N' then malformed .unknownCharacterName
  else if char.isAlphanum then malformed .badEscape
  else .ok (char.toNat, rest)

/-! ## Escapes within a set -/

/-- An escape within a set. Here `b` is the backspace, and up to three octal digits are a code. -/
def readSetEscape (char : Char) (rest : List Lexeme) : Except Flaw (SetItem × List Lexeme) :=
  match kindItem? char, hexDigits? char with
  | some item, _ => .ok (item, rest)
  | none, some count => (readHex count rest).map fun (code, left) => (.one code, left)
  | none, none =>
    match controlCode? char with
    | some code => .ok (.one code, rest)
    | none =>
      if char = 'b' then .ok (.one 8, rest)
      else if isOctal char then
        let (digits, left) := takePlain isOctal 2 rest
        let code := Text.toNat 8 (char :: digits)
        if 255 < code then malformed .badEscape else .ok (.one code, left)
      else (readItself char rest).map fun (code, left) => (.one code, left)

/-- One item of a set, before a possible range. -/
def readSetItem : Lexeme → List Lexeme → Except Flaw (SetItem × List Lexeme)
  | .plain char, rest => .ok (.one char.toNat, rest)
  | .escape char, rest => readSetEscape char rest
  | .named _ char, rest => .ok (.one char.toNat, rest)
  | .dangling, _ => malformed .danglingBackslash

/-- The range between two items. -/
def rangeItem : SetItem → SetItem → Except Flaw SetItem
  | .one first, .one last =>
    if last < first then malformed .badRange else .ok (.span first last)
  | _, _ => malformed .badRange

/-- The items of a set up to its closing bracket, which is an item itself where it comes first. -/
def readSetItems : Nat → List SetItem → List Lexeme → Except Flaw (List SetItem × List Lexeme)
  | 0, _, _ => malformed .unfinished
  | _ + 1, _, [] => malformed .openSet
  | fuel + 1, items, lexeme :: rest =>
    if lexeme = .plain ']' && !items.isEmpty then .ok (items.reverse, rest)
    else do
      let (item, left) ← readSetItem lexeme rest
      match left with
      | .plain '-' :: .plain ']' :: after => .ok ((.one 45 :: item :: items).reverse, after)
      | .plain '-' :: other :: after =>
        let (last, left) ← readSetItem other after
        let range ← rangeItem item last
        readSetItems fuel (range :: items) left
      | [.plain '-'] => malformed .openSet
      | left => readSetItems fuel (item :: items) left

/-- A set, after its opening bracket: its items and whether it is a complement. -/
def readSet (rest : List Lexeme) : Except Flaw (List SetItem × Bool × List Lexeme) :=
  match rest with
  | .plain '^' :: after => do
    let (items, left) ← readSetItems (after.length + 1) [] after
    return (items, true, left)
  | _ => do
    let (items, left) ← readSetItems (rest.length + 1) [] rest
    return (items, false, left)

end GrokEvents.Expr
