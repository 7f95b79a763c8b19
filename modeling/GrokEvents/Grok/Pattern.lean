/-
**Compiled patterns.**

A pattern is compiled by expanding it and having an engine read the expanded text as an expression.
A text that is no expression gives a pattern that matches nothing.

* `find_eq_match?`: searching with the engine of this library is matching.
-/

import GrokEvents.Grok.Expansion
import GrokEvents.Expr.Engine

namespace GrokEvents.Grok

/-- A compiled pattern. -/
structure Pattern where
  source : Text
  expansion : Expansion
  /-- The expression of the expanded text, if it is one. -/
  expression : Option Expr.Expression
deriving DecidableEq, Repr

namespace Pattern

/-- Compiles a source. The fault of an expanded text ends the compilation without a pattern. -/
def compile [Expr.Engine] (registry : Registry) (budget : Nat) (source : Text) :
    Logged (Except Expr.Fault Pattern) := do
  let expansion ← expand registry budget source
  match Expr.Engine.read expansion.text with
  | .ok expression => return .ok ⟨source, expansion, some expression⟩
  | .error (.malformed _) => do
    Logged.note .unusableExpression
    return .ok ⟨source, expansion, none⟩
  | .error (.fault fault) => return .error fault

/-- The fields that an engine finds in a text. -/
def find [Expr.Engine] (pattern : Pattern) (text : Text) :
    Except Expr.Fault (Option (Entries Text Text)) :=
  match pattern.expression with
  | none => .ok none
  | some expression => Expr.Engine.search expression text

/-- The fields of the leftmost match in a text. -/
def match? (pattern : Pattern) (text : Text) : Option (Entries Text Text) :=
  pattern.expression.bind fun expression => expression.fields? text

theorem find_eq_match? [Expr.CharacterNames] (pattern : Pattern) (text : Text) :
    pattern.find text = .ok (pattern.match? text) := by
  unfold find match?
  cases pattern.expression <;> rfl

end Pattern

end GrokEvents.Grok
