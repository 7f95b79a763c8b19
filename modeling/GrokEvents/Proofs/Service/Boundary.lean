/-
**What crosses the boundary of the service.**

Bad input is answered with a status. The one thing that ends a request without an answer is a fault
of the engine, at reading what its pattern expands to or at searching its line, and such a fault is
handed on as it is.

* `transform_eq_error_iff`: a request ends in a fault where asking for its pattern does, or
  searching its line.
* `answered_unless_faulted`: which patterns are compiled and which requests are answered, for every
  engine and every compiler in service.
* `transform_overcounting`: the fault of a count that is too large crosses the boundary.
* `trace_of_transform`: with the engine of this library, what a request's pattern expands to shows
  why it ends in a fault.
-/

import GrokEvents.Proofs.Expr.Trace
import GrokEvents.Proofs.Service.History

namespace GrokEvents

open Grok

section Engine

variable [Expr.Engine]

/-! ### Compiling -/

/-- Reading the text that a source expands to ends in a fault. -/
def Unreadable (registry : Registry) (passes : Nat) (source : Text) (fault : Expr.Fault) : Prop :=
  Expr.Engine.read (expand registry passes source).value.text = .error (.fault fault)

theorem Grok.Pattern.compile_value (registry : Registry) (passes : Nat) (source : Text) :
    (Pattern.compile registry passes source).value =
      match Expr.Engine.read (expand registry passes source).value.text with
      | .ok expression => .ok ⟨source, (expand registry passes source).value, some expression⟩
      | .error (.malformed _) => .ok ⟨source, (expand registry passes source).value, none⟩
      | .error (.fault fault) => .error fault := by
  unfold Pattern.compile
  rw [Logged.value_bind]
  rcases Expr.Engine.read (expand registry passes source).value.text with
    (cause | fault) | expression <;> rfl

variable {registry : Registry} {passes : Nat} {compiler : Compiler}

theorem Reliable.compile_eq_error_iff (reliable : Reliable registry passes compiler) (source : Text)
    (fault : Expr.Fault) : (compiler.compile source).value.1 = .error fault ↔
      Unreadable registry passes source fault := by
  rw [reliable.compile_value, Pattern.compile_value, Unreadable]
  rcases Expr.Engine.read (expand registry passes source).value.text with
    (cause | other) | expression <;> simp

/-- A pattern of the source, of its expansion, and without an expression just where the expanded text
is malformed. -/
def Compiled (registry : Registry) (passes : Nat) (source : Text) (pattern : Pattern) : Prop :=
  pattern.source = source ∧ pattern.expansion = (expand registry passes source).value ∧
    match Expr.Engine.read (expand registry passes source).value.text with
    | .ok expression => pattern.expression = some expression
    | .error (.malformed _) => pattern.expression = none
    | .error (.fault _) => False

theorem Reliable.compile_eq_ok_iff (reliable : Reliable registry passes compiler) (source : Text)
    (pattern : Pattern) : (compiler.compile source).value.1 = .ok pattern ↔
      Compiled registry passes source pattern := by
  rw [reliable.compile_value, Pattern.compile_value, Compiled]
  obtain ⟨origin, expansion, expression⟩ := pattern
  rcases Expr.Engine.read (expand registry passes source).value.text with
    (cause | other) | expression <;> simp [eq_comm]

/-- The expression of a compiled pattern is what the engine reads, if it is one. -/
theorem Compiled.expression_eq_some_iff {source : Text} {pattern : Pattern}
    (compiled : Compiled registry passes source pattern) (expression : Expr.Expression) :
    pattern.expression = some expression ↔
      Expr.Engine.read (expand registry passes source).value.text = .ok expression := by
  obtain ⟨-, -, held⟩ := compiled
  cases isRead : Expr.Engine.read (expand registry passes source).value.text with
  | ok found =>
    rw [isRead] at held
    dsimp only at held
    rw [held, Option.some.injEq, Except.ok.injEq]
  | error flaw =>
    rw [isRead] at held
    cases flaw with
    | malformed cause =>
      dsimp only at held
      rw [held]
      exact iff_of_false nofun nofun
    | fault fault => exact held.elim

/-! ### Searching -/

/-- Looking for the fields of a line ends in a fault: reading the text that the source expands to does,
or searching the line for the expression of that text. Where the source declares no field, the line is
not searched. -/
inductive Faulted (registry : Registry) (passes : Nat) (source line : Text) : Expr.Fault → Prop where
  | reading {fault} (unreadable : Unreadable registry passes source fault) :
      Faulted registry passes source line fault
  | searching {fault expression} (declared : (expand registry passes source).value.fields ≠ [])
      (isRead : Expr.Engine.read (expand registry passes source).value.text = .ok expression)
      (ended : Expr.Engine.search expression line = .error fault) :
      Faulted registry passes source line fault

theorem matchLine_eq_error_iff {pattern : Pattern} {line : Text} {fault : Expr.Fault} :
    (Filter.matchLine pattern line).value = .error fault ↔
      pattern.expansion.fields ≠ [] ∧ ∃ expression, pattern.expression = some expression ∧
        Expr.Engine.search expression line = .error fault := by
  obtain ⟨source, expansion, expression⟩ := pattern
  unfold Filter.matchLine Pattern.find
  cases fields : expansion.fields with
  | nil => simp
  | cons name names =>
    cases expression with
    | none => simp
    | some expression =>
      rcases found : Expr.Engine.search expression line with other | _ | matched <;> simp [found]

/-- Asking for a pattern and searching a line with it ends in a fault where either step does. -/
theorem Reliable.search_eq_error_iff (reliable : Reliable registry passes compiler)
    (source line : Text) (fault : Expr.Fault) :
    ((compiler.compile source).value.1 >>= fun pattern =>
        (Filter.matchLine pattern line).value) = .error fault ↔
      Faulted registry passes source line fault := by
  cases compiled : (compiler.compile source).value.1 with
  | error other =>
    have unreadable := (reliable.compile_eq_error_iff source other).mp compiled
    constructor
    · rintro ⟨rfl⟩
      exact .reading unreadable
    · rintro (again | ⟨-, isRead, -⟩)
      · obtain rfl : fault = other := by
          simpa using again.symm.trans unreadable
        rfl
      · cases unreadable.symm.trans isRead
  | ok pattern =>
    have compiled := (reliable.compile_eq_ok_iff source pattern).mp compiled
    show (Filter.matchLine pattern line).value = .error fault ↔ _
    rw [matchLine_eq_error_iff, compiled.2.1]
    constructor
    · rintro ⟨declared, expression, found, ended⟩
      exact .searching declared ((compiled.expression_eq_some_iff expression).mp found) ended
    · rintro (unreadable | ⟨declared, isRead, ended⟩)
      · have kept := compiled.2.2
        rw [unreadable] at kept
        exact kept.elim
      · exact ⟨declared, _, (compiled.expression_eq_some_iff _).mpr isRead, ended⟩

/-! ### Answering -/

/-- The pattern that a request has compiled and the line that it has searched: there are none where the
line, the configuration or one of its parts is missing. -/
def asked? (log configuration : Option Text) : Option (Text × Text) :=
  match log.filter (!·.isEmpty), configuration.filter (!·.isEmpty) with
  | some log, some configuration =>
    (Filter.plan? configuration).value.map fun plan => (plan.2, Text.trim log)
  | _, _ => none

theorem run_eq_error_iff (clock : Time.Moment) (compiler : Compiler) (log configuration : Text)
    (fault : Expr.Fault) : (Filter.run clock compiler log configuration).value.1 = .error fault ↔
      ∃ plan, (Filter.plan? configuration).value = some plan ∧
        ((compiler.compile plan.2).value.1 >>= fun pattern =>
          (Filter.matchLine pattern (Text.trim log)).value) = .error fault := by
  rw [run_value]
  rcases (Filter.plan? configuration).value with _ | ⟨filter, source⟩
  · simp
  · simp only [Option.some.injEq, exists_eq_left']
    cases (compiler.compile source).value.1 with
    | error other => rfl
    | ok pattern =>
      show ((Filter.matchLine pattern (Text.trim log)).value.map _) = _ ↔
        (Filter.matchLine pattern (Text.trim log)).value = _
      cases (Filter.matchLine pattern (Text.trim log)).value <;> simp [Except.map]

/-- A request ends in a fault where asking for its pattern does, or searching its line. -/
theorem transform_eq_error_iff (clock : Time.Moment) (compiler : Compiler)
    (log configuration : Option Text) (explain : Bool) (fault : Expr.Fault) :
    (transform clock compiler log configuration explain).value.1 = .error fault ↔
      ∃ source line, asked? log configuration = some (source, line) ∧
        ((compiler.compile source).value.1 >>= fun pattern =>
          (Filter.matchLine pattern line).value) = .error fault := by
  rw [transform_value]
  unfold asked?
  cases log.filter (!·.isEmpty) with
  | none => simp
  | some line =>
    cases configuration.filter (!·.isEmpty) with
    | none => simp
    | some text =>
      have ended := run_eq_error_iff clock compiler line text fault
      dsimp only
      trans (Filter.run clock compiler line text).value.1 = .error fault
      · cases (Filter.run clock compiler line text).value.1 <;> simp [Except.map]
      · rw [ended]
        cases (Filter.plan? text).value <;> simp

/-- **What crosses the boundary.** Whatever engine reads and searches, and in whatever state a
compiler is left by what it has served: a pattern is compiled unless reading what it expands to ends
in a fault, and a request is answered unless its pattern or its line is at fault. A fault that ends
either is the engine's. -/
theorem answered_unless_faulted (registry : Registry) (passes cacheSize : Nat)
    (requests : List Request) :
    let compiler := served (.fresh registry passes cacheSize) requests
    (∀ source,
      ((∃ pattern, (compiler.compile source).value.1 = .ok pattern ∧
          Compiled registry passes source pattern) ↔
        ∀ fault, ¬ Unreadable registry passes source fault) ∧
      ∀ fault, (compiler.compile source).value.1 = .error fault ↔
        Unreadable registry passes source fault) ∧
    ∀ clock log configuration explain,
      ((∃ answer, (transform clock compiler log configuration explain).value.1 = .ok answer ∧
          (answer.status = 200 ∨ answer.status = 400)) ↔
        ∀ source line, asked? log configuration = some (source, line) →
          ∀ fault, ¬ Faulted registry passes source line fault) ∧
      ∀ fault, (transform clock compiler log configuration explain).value.1 = .error fault ↔
        ∃ source line, asked? log configuration = some (source, line) ∧
          Faulted registry passes source line fault := by
  intro compiler
  have reliable : Reliable registry passes compiler :=
    reliable_served registry passes cacheSize requests
  have ends (clock log configuration explain fault) :
      (transform clock compiler log configuration explain).value.1 = .error fault ↔
        ∃ source line, asked? log configuration = some (source, line) ∧
          Faulted registry passes source line fault := by
    simp only [transform_eq_error_iff, reliable.search_eq_error_iff]
  refine ⟨fun source => ⟨?compiled, reliable.compile_eq_error_iff source⟩,
    fun clock log configuration explain => ⟨?answered, ends clock log configuration explain⟩⟩
  case compiled =>
    constructor
    · rintro ⟨pattern, compiled, _⟩ fault unreadable
      rw [(reliable.compile_eq_error_iff source fault).mpr unreadable] at compiled
      cases compiled
    · intro readable
      cases compiled : (compiler.compile source).value.1 with
      | ok pattern => exact ⟨pattern, rfl, (reliable.compile_eq_ok_iff source pattern).mp compiled⟩
      | error fault =>
        exact absurd ((reliable.compile_eq_error_iff source fault).mp compiled) (readable fault)
  case answered =>
    cases answered : (transform clock compiler log configuration explain).value.1 with
    | ok answer =>
      refine iff_of_true ⟨answer, rfl, ?_⟩ fun source line asked fault faulted => ?_
      · cases answer <;> simp [Answer.status]
      · have ended := (ends clock log configuration explain fault).mpr
          ⟨source, line, asked, faulted⟩
        rw [answered] at ended
        cases ended
    | error fault =>
      obtain ⟨source, line, asked, faulted⟩ := (ends ..).mp answered
      exact iff_of_false (by simp) fun faultless => faultless source line asked fault faulted

end Engine

/-- A configuration whose pattern asks for as many repetitions as no engine counts. -/
def overcounting : Text :=
  ("filter \x7b grok \x7b match => \x7b \"message\" => " ++
    "\"%\x7bWORD:x\x7da\x7b4294967295\x7d\" \x7d \x7d \x7d").toList

/-- The fault of a count that is too large crosses the boundary. -/
theorem transform_overcounting : ¬ ∃ answer,
    (transform ⟨⟨2026, 1, 1⟩, ⟨0, 0, 0, 0⟩, none⟩ .default (some "x".toList) (some overcounting)
      false).value.1 = .ok answer := by
  have ended : (transform ⟨⟨2026, 1, 1⟩, ⟨0, 0, 0, 0⟩, none⟩ .default (some "x".toList)
      (some overcounting) false).value.1.toOption = none := by
    decide +kernel
  rintro ⟨answer, answered⟩
  rw [answered] at ended
  cases ended

/-- Where a request to the engine of this library ends in a fault, its pattern expands to a text with a
braced count that is too large or too long, or with letters that ask for all scripts. -/
theorem trace_of_transform [Expr.CharacterNames] {registry : Registry} {passes : Nat}
    {compiler : Compiler} (reliable : Reliable registry passes compiler) {clock : Time.Moment}
    {log configuration : Option Text} {explain : Bool} {fault : Expr.Fault}
    (ended : (transform clock compiler log configuration explain).value.1 = .error fault) :
    ∃ source line, asked? log configuration = some (source, line) ∧
      Expr.Trace (expand registry passes source).value.text fault := by
  obtain ⟨source, line, asked, ended⟩ := (transform_eq_error_iff ..).mp ended
  rcases (reliable.search_eq_error_iff source line fault).mp ended with unreadable | ⟨-, -, searched⟩
  · exact ⟨source, line, asked, Expr.trace_of_read unreadable⟩
  · cases searched

end GrokEvents
