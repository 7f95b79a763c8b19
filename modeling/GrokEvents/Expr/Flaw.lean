/-
**What can be wrong with an expression's text.**

A malformed text is no expression, and whoever asked for it can go on without one. A fault is
worse: the text may be well formed, but it asks for what no engine grants, or the engine fails, and
the request as a whole ends.
-/

import GrokEvents.Text.Basic

namespace GrokEvents.Expr

/-- Why a text is no expression. -/
inductive Malformed where
  | danglingBackslash
  | badEscape
  | incompleteEscape
  | unknownCharacterName
  | openSet
  | badRange
  | nothingToRepeat
  | repeatedTwice
  | crossedBounds
  | openGroup
  | openComment
  | openName
  | badName
  | nameTaken
  | unknownName
  | badGroupNumber
  | noSuchGroup
  | groupStillOpen
  | groupOfSameLookbehind
  | unknownExtension
  | tooManyBranches
  | badFlags
  | lateGlobalFlags
  | strayClosing
  | varyingLookbehind
  | forbiddenLoop
  /-- A reader has run out of fuel. No text is refused for this. -/
  | unfinished
deriving DecidableEq, Repr

/-- Why a request for an expression or for its matches ends without an answer. -/
inductive Fault where
  /-- A loop count at or beyond the limit. -/
  | countTooLarge
  /-- A loop count with more digits than are read as a number. -/
  | numeralTooLong (digits : Nat)
  /-- All scripts are asked for where only ASCII is allowed. -/
  | modesClash
  /-- The engine fails: it runs out of stack, or is at odds with itself. -/
  | engineFailure (report : Text)
deriving DecidableEq, Repr

/-- What is wrong with an expression's text. -/
inductive Flaw where
  | malformed (cause : Malformed)
  | fault (fault : Fault)
deriving DecidableEq, Repr

namespace Fault

/-- The most digits that are read as a number. -/
def numeralLimit : Nat := 4300

/-- The text of a fault. -/
def message : Fault → Text
  | .countTooLarge => "the repetition number is too large".toList
  | .numeralTooLong digits =>
    "Exceeds the limit (4300 digits) for integer string conversion: value has ".toList ++
      Text.ofNat digits ++
      " digits; use sys.set_int_max_str_digits() to increase the limit".toList
  | .modesClash => "ASCII and UNICODE flags are incompatible".toList
  | .engineFailure report => report

end Fault

end GrokEvents.Expr
