/-
**Engines.**

An engine makes expressions of texts and searches subjects for their matches. Whoever compiles and
matches patterns sees of an engine what it answers, and has to reckon with faults of its own: groups
may be nested deeper than its stack allows, and a loop may leave it with a group that ends before it
starts.

* `Engine`: what an engine answers.
* `backtracking`: the engine of this library. Searching with it never ends in a fault.
-/

import GrokEvents.Expr.Matching

namespace GrokEvents.Expr

/-- What reads and searches. -/
class Engine where
  /-- The expression of a text, or what is wrong with the text. -/
  read : Text → Except Flaw Expression
  /-- The named groups of the leftmost match in a subject, or the fault that the search ends in. -/
  search : Expression → Text → Except Fault (Option (Entries Text Text))

/-- The engine that reads and matches as this library does. -/
instance backtracking [CharacterNames] : Engine where
  read := Expr.read
  search expression subject := .ok (expression.fields? subject)

theorem read_backtracking [CharacterNames] (text : Text) : Engine.read text = read text :=
  rfl

end GrokEvents.Expr
