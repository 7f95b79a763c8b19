/-
**Quantifiers.**

The bounds of a loop: the three signs, or up to two numerals between braces. Braces that hold
anything else are no quantifier, and the opening one stands for itself.
-/

import GrokEvents.Expr.Escape
import GrokEvents.Expr.Node

namespace GrokEvents.Expr

/-- The numerals of a braced quantifier, of which either may be missing, and what follows it. -/
def readBounds? (rest : List Lexeme) : Option (Text × Text × List Lexeme) :=
  let (least, left) := takePlain Char.isDigit rest.length rest
  match left with
  | .plain ',' :: after =>
    let (most, left) := takePlain Char.isDigit after.length after
    match left with
    | .plain '}' :: after => some (least, most, after)
    | _ => none
  | .plain '}' :: after => if least.isEmpty then none else some (least, least, after)
  | _ => none

/-- The number of rounds that a numeral asks for; nothing written is no number. -/
def readCount (digits : Text) : Except Flaw (Option Nat) :=
  if digits.isEmpty then .ok none
  else if Fault.numeralLimit < digits.length then .error (.fault (.numeralTooLong digits.length))
  else
    let count := Text.toNat 10 digits
    if Node.countLimit ≤ count then .error (.fault .countTooLarge) else .ok (some count)

/-- The bounds that a braced quantifier asks for. A dangling backslash right after it is
noticed first. -/
def readRounds (least most : Text) (rest : List Lexeme) : Except Flaw (Nat × Option Nat) :=
  if rest = [.dangling] then malformed .danglingBackslash
  else do
    let low ← readCount least
    let high ← readCount most
    match high with
    | some limit =>
      if limit < low.getD 0 then malformed .crossedBounds else .ok (low.getD 0, high)
    | none => .ok (low.getD 0, none)

/-- The appetite that the sign after a quantifier gives it. -/
def readAppetite : List Lexeme → Appetite × List Lexeme
  | .plain '?' :: rest => (.lazy, rest)
  | .plain '+' :: rest => (.possessive, rest)
  | rest => (.greedy, rest)

end GrokEvents.Expr
