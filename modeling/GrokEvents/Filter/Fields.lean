/-
**From a log line to its fields.**

A configuration is run against one line: the pattern of its `grok` section is matched, its date
clause adds a timestamp, and the fields on its removal list are dropped.

* `removeAll_eq_filter`: what is removed are the fields of the list, and the others keep their order.
-/

import GrokEvents.Filter.Section
import GrokEvents.Filter.Clause
import GrokEvents.Grok.Compiler
import GrokEvents.Time.Timestamp

namespace GrokEvents

/-- The fields of a log line, in order. -/
abbrev Fields := Entries Text Text

namespace Filter

open Grok

/-- The name of the field that a date clause writes. -/
def timestampField : Text := "@timestamp".toList

/-- The fields with the timestamp of a date clause, when its field holds a text. -/
def applyDate (clock : Time.Moment) (filter : Text) (fields : Fields) : Logged Fields :=
  match dateClause? filter with
  | none => pure fields
  | some clause =>
    match Entries.get? clause.field fields with
    | none | some [] => pure fields
    | some value => do
      return Entries.insert timestampField (← Time.normalizeDate clock value) fields

/-- The fields less those named. -/
def removeAll (names : List Text) (fields : Fields) : Fields :=
  names.foldl (fun left name => Entries.erase name left) fields

theorem removeAll_eq_filter (names : List Text) (fields : Fields) :
    removeAll names fields = fields.filter fun field => !names.contains field.1 := by
  induction names generalizing fields with
  | nil => exact (List.filter_eq_self.mpr fun _ _ => rfl).symm
  | cons name names ih =>
    show removeAll names (Entries.erase name fields) = _
    rw [ih, Entries.erase_eq_filter, List.filter_filter]
    congr 1
    funext field
    by_cases same : field.1 = name <;> simp [same]

/-- The fields that a compiled pattern finds in a line, or the fault of searching it. A pattern that
declares no field finds none, and is not searched for. -/
def matchLine [Expr.Engine] (pattern : Pattern) (line : Text) :
    Logged (Except Expr.Fault (Option Fields)) :=
  if pattern.expansion.fields.isEmpty then do
    Logged.note .noDeclaredFields
    return .ok none
  else
    match pattern.find line with
    | .error fault => return .error fault
    | .ok (some fields) => return .ok (some fields)
    | .ok none => do
      Logged.note .noMatch
      return .ok none

/-- The date and the removals of a filter, applied to the fields of a line. -/
def finish (clock : Time.Moment) (filter : Text) : Option Fields → Logged (Option Fields)
  | none => pure none
  | some fields => do
    let dated ← applyDate clock filter fields
    return some (removeAll (removals filter) dated)

/-- The body of the filter section of a configuration with the pattern for the message in it. -/
def plan? (configuration : Text) : Logged (Option (Text × Text)) :=
  match section? "filter".toList (Text.trim configuration) with
  | none => do
    Logged.note .noFilterSection
    return none
  | some filter =>
    match section? "grok".toList filter with
    | none => do
      Logged.note .noGrokSection
      return none
    | some grok =>
      match messagePattern? grok with
      | none => do
        Logged.note .noMessagePattern
        return none
      | some source => pure (some (filter, source))

/-- Runs a configuration against a log line: the fields, if there are any, or the fault that ends the
run, and the compiler to go on with. -/
def run [Expr.Engine] (clock : Time.Moment) (compiler : Compiler) (log configuration : Text) :
    Logged (Except Expr.Fault (Option Fields) × Compiler) := do
  match ← plan? configuration with
  | none => return (.ok none, compiler)
  | some (filter, source) =>
    match ← compiler.compile source with
    | (.error fault, compiler) => return (.error fault, compiler)
    | (.ok pattern, compiler) =>
      match ← matchLine pattern (Text.trim log) with
      | .error fault => return (.error fault, compiler)
      | .ok fields => return (.ok (← finish clock filter fields), compiler)

end Filter

end GrokEvents
