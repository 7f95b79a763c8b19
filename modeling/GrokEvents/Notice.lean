/-
**Notices and computations that leave them.**

What is met on the way is reported as notices beside the result. A notice has a level, the channel
it is filed under and the text of its template; its arguments are no part of it.

* `value_bind`, `notices_bind`: a computation in two steps leaves the notices of the first step,
  then those of the second.
-/

import GrokEvents.Text.Basic

namespace GrokEvents

/-! ## Notices -/

/-- How much a notice weighs. -/
inductive Level where
  | debug
  | info
  | warning
deriving DecidableEq, Repr

namespace Level

/-- The level's name. -/
def name : Level → String
  | .debug => "DEBUG"
  | .info => "INFO"
  | .warning => "WARNING"

/-- The level's rank among the levels. -/
def rank : Level → Nat
  | .debug => 0
  | .info => 1
  | .warning => 2

end Level

/-- What can be met on the way from a log line to an event. -/
inductive Notice where
  | unknownPattern
  | unresolvedExpansion
  | unusableExpression
  | noFilterSection
  | noGrokSection
  | noMessagePattern
  | noDeclaredFields
  | noMatch
  | unmatchedDate
  | unknownTimestamp
  | notNumeric
  | tooManyDigits
  | notConverted
  | parseFailed
  | mapped
deriving DecidableEq, Repr

namespace Notice

/-- The level of a notice. -/
def level : Notice → Level
  | .unresolvedExpansion | .unusableExpression => .warning
  | .parseFailed => .info
  | _ => .debug

/-- The channel a notice is filed under. -/
def channel : Notice → String
  | .unknownPattern => "parsers.patterns"
  | .unresolvedExpansion | .unusableExpression => "parsers.grok"
  | .noFilterSection | .noGrokSection | .noMessagePattern | .noDeclaredFields | .noMatch =>
    "parsers.pipeline"
  | .unmatchedDate | .unknownTimestamp => "parsers.dates"
  | .notNumeric | .tooManyDigits | .notConverted => "udm.mapper"
  | .parseFailed | .mapped => "service"

/-- The template of a notice's text. -/
def template : Notice → String
  | .unknownPattern => "Unknown grok pattern %r, using %s"
  | .unresolvedExpansion => "Grok expansion unresolved after %d iterations: %r"
  | .unusableExpression => "Grok pattern %r failed to compile: %s"
  | .noFilterSection => "No balanced filter \x7b\x7d section in configuration"
  | .noGrokSection => "No balanced grok \x7b\x7d section in filter"
  | .noMessagePattern => "No match => \x7b \"message\" => ... \x7d in grok section"
  | .noDeclaredFields => "Grok pattern %r declares no fields"
  | .noMatch => "Grok pattern %r did not match %r"
  | .unmatchedDate => "Date %r does not match %s, using current time"
  | .unknownTimestamp => "Unrecognized timestamp %r, using current time"
  | .notNumeric => "Non-numeric value %r left unset"
  | .tooManyDigits => "Integer value of %d characters left unset"
  | .notConverted => "Integer conversion failed for %d characters: %s"
  | .parseFailed => "Log did not parse with the supplied configuration"
  | .mapped => "Mapped %d parsed fields to UDM"

end Notice

/-! ## Computations that leave notices -/

/-- A value and the notices left on the way to it. -/
structure Logged (Value : Type) where
  value : Value
  notices : List Notice := []

namespace Logged

instance : Monad Logged where
  pure value := ⟨value, []⟩
  bind first next :=
    let second := next first.value
    ⟨second.value, first.notices ++ second.notices⟩

/-- Leaves one notice. -/
def note (notice : Notice) : Logged Unit :=
  ⟨(), [notice]⟩

@[simp] theorem value_pure {Value : Type} (value : Value) :
    (pure value : Logged Value).value = value := rfl

@[simp] theorem value_bind {First Second : Type} (first : Logged First)
    (next : First → Logged Second) : (first >>= next).value = (next first.value).value := rfl

@[simp] theorem notices_bind {First Second : Type} (first : Logged First)
    (next : First → Logged Second) :
    (first >>= next).notices = first.notices ++ (next first.value).notices := rfl

theorem pure_bind {First Second : Type} (value : First) (next : First → Logged Second) :
    pure value >>= next = next value := rfl

theorem bind_assoc {First Second Third : Type} (first : Logged First)
    (second : First → Logged Second) (third : Second → Logged Third) :
    first >>= second >>= third = first >>= fun value => second value >>= third := by
  show Logged.mk _ _ = Logged.mk _ _
  rw [notices_bind, List.append_assoc]
  rfl

end Logged

end GrokEvents
