/-
**From records to lines and back.**

A record that is written as a line of the combined format comes back whole from a configuration for that
format: as its fields, and as its event.

* `run_line`: the fields that a configuration finds in the line of a record.
* `transform_line`: the answer about the line of a record.
-/

import GrokEvents.Proofs.AccessLog.Line
import GrokEvents.Proofs.AccessLog.Mapped
import GrokEvents.Proofs.Filter.Job
import GrokEvents.Proofs.Service.Boundary

namespace GrokEvents.AccessLog

open Grok Filter

/-! ### The line as a whole -/

theorem isBlank_of_isAlphanum {char : Char} (alphanum : char.isAlphanum = true) :
    Text.isBlank char = false := by
  rw [← any_letterOrDigit, List.any_eq_true] at alphanum
  obtain ⟨item, listed, covered⟩ := alphanum
  have within : 48 ≤ char.toNat ∧ char.toNat ≤ 122 := by
    simp only [letterOrDigit, List.mem_cons, List.not_mem_nil, or_false] at listed
    rcases listed with rfl | rfl | rfl <;>
      exact (le_of_covers_span covered).imp (Nat.le_trans (by decide)) (Nat.le_trans · (by decide))
  exact Text.isBlank_of_visible (by omega) (by omega)

theorem line_eq_cons (record : Record) :
    record.line = record.host.first.first :: record.line.tail := by
  rw [line_eq]
  rfl

/-- A line has no white space around it. -/
theorem trim_line (record : Record) : Text.trim record.line = record.line := by
  have last : record.line.tail.getLast? = some '"' := by
    rw [line_eq, Record.ending, endingText]
    simp [Host.text, Label.text, quoted, List.getLast?_cons]
  obtain ⟨middle, same⟩ := List.getLast?_eq_some_iff.mp last
  rw [line_eq_cons, same]
  exact trim_of_ends (isBlank_of_isAlphanum record.host.first.first_isAlphanum) (by decide) middle

/-! ### Running a configuration -/

/-- The pattern of the combined format as it is compiled. -/
def pattern (passes : Nat) : Pattern :=
  ⟨combined, (expand .builtin passes combined).value, some expression⟩

/-- What a filter for the timestamp that removes none of its fields makes of a record. -/
theorem finish_parts {filter : Text} {clause : DateClause} {record : Record}
    (dated : dateClause? filter = some clause)
    (reads : clause.field = "timestamp".toList)
    (keeps : ∀ name ∈ removals filter, name ∉ Entries.keys record.fields) (clock : Time.Moment) :
    finish clock filter (some record.parts) = pure (some record.fields) := by
  have kept : removeAll (removals filter) record.fields = record.fields := by
    rw [removeAll_eq_filter, List.filter_eq_self]
    intro field member
    rw [Bool.not_eq_true', ← Bool.not_eq_true, List.contains_iff_mem]
    exact fun removed => keeps field.1 removed (List.mem_map_of_mem member)
  rw [finish, applyDate_parts dated reads, Logged.pure_bind, kept]

section Run

variable [Expr.CharacterNames] {passes : Nat} {compiler : Compiler} {configuration filter : Text}
  {clause : DateClause}

theorem compile_combined (enough : 3 ≤ passes) (reliable : Reliable .builtin passes compiler) :
    (compiler.compile combined).value.1 = .ok (pattern passes) := by
  rw [reliable.compile_value, Pattern.compile_value, Expr.read_backtracking, (read_expand enough).2]
  rfl

theorem matchLine_line (enough : 3 ≤ passes) (record : Record) :
    matchLine (pattern passes) (Text.trim record.line) = pure (.ok (some record.parts)) := by
  have declared : (pattern passes).expansion.fields.isEmpty = false := (read_expand enough).1
  have matched : (pattern passes).match? record.line = some record.parts := fields?_line record
  rw [trim_line, matchLine, declared, Pattern.find_eq_match?, matched]
  rfl

theorem run_line (enough : 3 ≤ passes) (reliable : Reliable .builtin passes compiler)
    {record : Record} (planned : (plan? configuration).value = some (filter, combined))
    (dated : dateClause? filter = some clause) (reads : clause.field = "timestamp".toList)
    (keeps : ∀ name ∈ removals filter, name ∉ Entries.keys record.fields) (clock : Time.Moment) :
    (Filter.run clock compiler record.line configuration).value.1 = .ok (some record.fields) := by
  have compiled := compile_combined enough reliable
  unfold Filter.run
  rw [Logged.value_bind, planned]
  dsimp only
  rw [Logged.value_bind]
  rcases asked : (compiler.compile combined).value with ⟨answer, next⟩
  rw [asked] at compiled
  obtain rfl : answer = .ok (pattern passes) := compiled
  dsimp only
  rw [matchLine_line enough, Logged.pure_bind]
  dsimp only
  rw [finish_parts dated reads keeps]
  rfl

/-- **A record comes back from its line.** Whatever a compiler of the built-in patterns has served,
and whatever the record is, a configuration for the combined format with a date clause for the
timestamp gives its fields, if it removes none of them, and its event. -/
theorem transform_line {passes : Nat} (enough : 3 ≤ passes) (cacheSize : Nat) (requests : List Request)
    (record : Record) {configuration filter : Text} {clause : DateClause}
    (planned : (plan? configuration).value = some (filter, combined))
    (dated : dateClause? filter = some clause) (reads : clause.field = "timestamp".toList)
    (keeps : ∀ name ∈ removals filter, name ∉ Entries.keys record.fields) (clock : Time.Moment)
    (explain : Bool) :
    (transform clock (served (.fresh .builtin passes cacheSize) requests) (some record.line)
      (some configuration) explain).value.1 =
      .ok (.transformed record.fields record.event
        (if explain then some (Event.explain record.fields record.event) else none)) := by
  have reliable := reliable_served .builtin passes cacheSize requests
  have ran := run_line enough reliable planned dated reads keeps clock
  have line : (some record.line).filter (!·.isEmpty) = some record.line := by
    rw [line_eq_cons]
    rfl
  have given : (some configuration).filter (!·.isEmpty) = some configuration := by
    cases configuration with
    | nil =>
      have unplanned : (plan? []).value = none := by
        decide
      rw [unplanned] at planned
      cases planned
    | cons char rest => rfl
  unfold transform
  rw [line, given]
  dsimp only
  rw [Logged.value_bind]
  rcases answered : (Filter.run clock _ record.line configuration).value with ⟨answer, next⟩
  rw [answered] at ran
  obtain rfl : answer = .ok (some record.fields) := ran
  show Except.ok (Answer.transformed record.fields (Event.ofFields clock record.fields).value
    (if explain then some (Event.explain record.fields (Event.ofFields clock record.fields).value)
      else none)) = _
  rw [ofFields_fields]

end Run

/-- The filter of a configuration for the combined format. -/
def visitFilter : Text :=
  (" grok \x7b match => \x7b \"message\" => \"%\x7bCOMBINEDAPACHELOG\x7d\" \x7d \x7d " ++
    "date \x7b match => [\"timestamp\", \"dd/MMM/yyyy:HH:mm:ss Z\"] \x7d ").toList

/-- A record whose host starts like an address, whose request holds a quote and whose referrer an
escaped one. -/
def visit : Record where
  host :=
    { first := ⟨'1', [], by decide, List.all_eq_true.mp rfl⟩
      others :=
        [⟨'2', [], by decide, List.all_eq_true.mp rfl⟩, ⟨'3', [], by decide, List.all_eq_true.mp rfl⟩,
          ⟨'4', ['-', 'x'], by decide, List.all_eq_true.mp rfl⟩] }
  ident := ⟨['-'], by decide, List.all_eq_true.mp rfl⟩
  auth := ⟨['j', '.', 'd'], by decide, List.all_eq_true.mp rfl⟩
  date :=
    { day := ⟨['1', '0'], by decide, List.all_eq_true.mp rfl⟩
      month := ⟨9, by decide⟩
      year := ⟨['2', '0', '0', '0'], by decide, List.all_eq_true.mp rfl⟩
      hour := ⟨['1', '3'], by decide, List.all_eq_true.mp rfl⟩
      minute := ⟨['5', '5'], by decide, List.all_eq_true.mp rfl⟩
      second := ⟨['3', '6'], by decide, List.all_eq_true.mp rfl⟩
      sign := .minus
      offset := ⟨['0', '7', '0', '0'], by decide, List.all_eq_true.mp rfl⟩ }
  method := ⟨['G', 'E', 'T'], by decide, List.all_eq_true.mp rfl⟩
  request := ⟨['/', '"', '"'], by decide, List.all_eq_true.mp rfl⟩
  version := none
  code := ⟨none, .whole ⟨['2', '0', '0'], by decide, List.all_eq_true.mp rfl⟩⟩
  bytes := none
  referrer := [.escaped '"' (by decide)]
  agent := []

/-- That record comes back from its line. -/
theorem transform_line_visit :
    (transform ⟨⟨2026, 1, 1⟩, ⟨0, 0, 0, 0⟩, none⟩ (served (.fresh .builtin 10 256) [])
      (some "1.2.3.4-x - j.d [10/Oct/2000:13:55:36 -0700] \"GET /\"\"\" 200 - \"\\\"\" \"\"".toList)
      (some ("filter \x7b".toList ++ visitFilter ++ ['\x7d'])) false).value.1 =
      .ok (.transformed visit.fields visit.event none) := by
  have line : visit.line =
      "1.2.3.4-x - j.d [10/Oct/2000:13:55:36 -0700] \"GET /\"\"\" 200 - \"\\\"\" \"\"".toList := by
    decide +kernel
  have planned : (plan? ("filter \x7b".toList ++ visitFilter ++ ['\x7d'])).value =
      some (visitFilter, combined) := by
    decide +kernel
  have dated : dateClause? visitFilter =
      some ⟨"timestamp".toList, "dd/MMM/yyyy:HH:mm:ss Z".toList⟩ := by
    decide +kernel
  have keeps : ∀ name ∈ removals visitFilter, name ∉ Entries.keys visit.fields := by
    decide +kernel
  rw [← line]
  exact transform_line (by decide) 256 [] visit planned dated rfl keeps _ false

end GrokEvents.AccessLog
