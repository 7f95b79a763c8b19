/-
**Compilers in service.**

A compiler is asked for patterns, for the fields of lines and for answers, and every request leaves it
with another cache. What its cache holds stays true: a kept pattern is the one that compiling its source
anew would give.

* `Reliable.compile`, `Reliable.after`: a request leaves a reliable compiler reliable.
* `reliable_served`: so is every compiler that has served any requests since it was built.
* `run_value`, `transform_value`: what a run and a request give, by what their pattern is compiled to.
* `Reliable.compile_value`: whatever is kept, asking for a pattern gives what compiling gives.
-/

import GrokEvents.Answer

namespace GrokEvents

open Grok

/-! ### Kept patterns -/

namespace Grok.Cache

variable {Key Value : Type} [DecidableEq Key]

theorem get?_take {key : Key} {value : Value} {count : Nat} {entries : Entries Key Value}
    (found : Entries.get? key (entries.take count) = some value) :
    Entries.get? key entries = some value := by
  have whole := Entries.get?_append key (entries.take count) (entries.drop count)
  rw [List.take_append_drop, found] at whole
  exact whole

/-- What stands in front of the other entries is the answer to its own question. -/
theorem get?_front {key other : Key} {value found : Value} {entries : Entries Key Value}
    (isFound : Entries.get? other ((key, value) :: Entries.erase key entries) = some found) :
    (other = key ∧ found = value) ∨ Entries.get? other entries = some found := by
  rw [Entries.get?] at isFound
  by_cases same : key = other
  · rw [if_pos same] at isFound
    exact .inl ⟨same.symm, (Option.some.inj isFound).symm⟩
  · rw [if_neg same, Entries.get?_erase, if_neg same] at isFound
    exact .inr isFound

end Grok.Cache

/-! ### Reliable compilers -/

variable [Expr.Engine]

/-- A compiler of a registry and a number of passes whose cache holds no untruth. -/
structure Reliable (registry : Registry) (passes : Nat) (compiler : Compiler) : Prop where
  registry_eq : compiler.registry = registry
  passes_eq : compiler.passes = passes
  kept : ∀ source pattern, compiler.cache.get? source = some pattern →
    (Pattern.compile registry passes source).value = .ok pattern

namespace Reliable

variable {registry : Registry} {passes : Nat} {compiler : Compiler}

theorem fresh (registry : Registry) (passes cacheSize : Nat) :
    Reliable registry passes (.fresh registry passes cacheSize) where
  registry_eq := rfl
  passes_eq := rfl
  kept := by
    intro source pattern found
    cases found

/-- Asking for a pattern gives what compiling its source gives. -/
theorem compile_value (reliable : Reliable registry passes compiler) (source : Text) :
    (compiler.compile source).value.1 = (Pattern.compile registry passes source).value := by
  unfold Compiler.compile
  cases found : compiler.cache.get? source with
  | some pattern => exact (reliable.kept source pattern found).symm
  | none =>
    dsimp only
    rw [reliable.registry_eq, reliable.passes_eq, Logged.value_bind]
    cases (Pattern.compile registry passes source).value <;> rfl

/-- Asking for a pattern leaves a reliable compiler. -/
theorem compile (reliable : Reliable registry passes compiler) (source : Text) :
    Reliable registry passes (compiler.compile source).value.2 := by
  have front {pattern : Pattern} {entries : Entries Text Pattern}
      (compiled : (Pattern.compile registry passes source).value = .ok pattern)
      (within : ∀ other found,
        Entries.get? other entries = some found →
          Entries.get? other ((source, pattern) :: Entries.erase source compiler.cache.entries) =
            some found)
      (other : Text) (found : Pattern) (isFound : Entries.get? other entries = some found) :
      (Pattern.compile registry passes other).value = .ok found := by
    rcases Cache.get?_front (within other found isFound) with ⟨rfl, rfl⟩ | kept
    · exact compiled
    · exact reliable.kept other found kept
  unfold Compiler.compile
  cases found : compiler.cache.get? source with
  | some pattern =>
    exact ⟨reliable.registry_eq, reliable.passes_eq,
      front (reliable.kept source pattern found) fun _ _ isFound => isFound⟩
  | none =>
    dsimp only
    rw [reliable.registry_eq, reliable.passes_eq, Logged.value_bind]
    cases compiled : (Pattern.compile registry passes source).value with
    | ok pattern =>
      exact ⟨rfl, rfl, front compiled fun _ _ isFound => Cache.get?_take isFound⟩
    | error fault => exact ⟨rfl, rfl, reliable.kept⟩

end Reliable

/-! ### Requests -/

/-- What a compiler is asked for in service. -/
inductive Request where
  | compile (source : Text)
  | run (clock : Time.Moment) (log configuration : Text)
  | transform (clock : Time.Moment) (log configuration : Option Text) (explain : Bool)

/-- The compiler that a request leaves. -/
def Request.after (compiler : Compiler) : Request → Compiler
  | .compile source => (compiler.compile source).value.2
  | .run clock log configuration => (Filter.run clock compiler log configuration).value.2
  | .transform clock log configuration explain =>
    (GrokEvents.transform clock compiler log configuration explain).value.2

/-- The compiler that requests leave, one after the other. -/
def served (compiler : Compiler) (requests : List Request) : Compiler :=
  requests.foldl Request.after compiler

/-- What a run gives: nothing without a plan, else what the filter makes of the line once its pattern is
compiled and the line is searched. -/
theorem run_value (clock : Time.Moment) (compiler : Compiler) (log configuration : Text) :
    (Filter.run clock compiler log configuration).value.1 =
      match (Filter.plan? configuration).value with
      | none => .ok none
      | some (filter, source) =>
        (compiler.compile source).value.1 >>= fun pattern =>
          (Filter.matchLine pattern (Text.trim log)).value.map fun fields =>
            (Filter.finish clock filter fields).value := by
  unfold Filter.run
  rw [Logged.value_bind]
  rcases (Filter.plan? configuration).value with _ | ⟨filter, source⟩
  · rfl
  · dsimp only
    rw [Logged.value_bind]
    rcases (compiler.compile source).value with ⟨fault | pattern, next⟩
    · rfl
    · dsimp only [bind, Except.bind]
      rcases (Filter.matchLine pattern (Text.trim log)).value with fault | fields <;> rfl

theorem run_compiler (clock : Time.Moment) (compiler : Compiler) (log configuration : Text) :
    (Filter.run clock compiler log configuration).value.2 =
      match (Filter.plan? configuration).value with
      | none => compiler
      | some (_, source) => (compiler.compile source).value.2 := by
  unfold Filter.run
  rw [Logged.value_bind]
  rcases (Filter.plan? configuration).value with _ | ⟨filter, source⟩
  · rfl
  · dsimp only
    rw [Logged.value_bind]
    rcases (compiler.compile source).value with ⟨fault | pattern, next⟩
    · rfl
    · dsimp only
      rw [Logged.value_bind]
      rcases (Filter.matchLine pattern (Text.trim log)).value with fault | fields <;> rfl

/-- The answer about the fields of a line, if it has any. -/
def Answer.about (clock : Time.Moment) (explain : Bool) : Option Fields → Answer
  | none => .unparsed
  | some fields =>
    let event := (Event.ofFields clock fields).value
    .transformed fields event (if explain then some (Event.explain fields event) else none)

/-- What a request is answered with: the answer about what a run gives, unless some input is missing. -/
theorem transform_value (clock : Time.Moment) (compiler : Compiler)
    (log configuration : Option Text) (explain : Bool) :
    (transform clock compiler log configuration explain).value.1 =
      match log.filter (!·.isEmpty), configuration.filter (!·.isEmpty) with
      | some log, some configuration =>
        (Filter.run clock compiler log configuration).value.1.map (Answer.about clock explain)
      | _, _ => .ok .missingInput := by
  unfold transform
  cases log.filter (!·.isEmpty) with
  | none => rfl
  | some log =>
    cases configuration.filter (!·.isEmpty) with
    | none => rfl
    | some configuration =>
      dsimp only
      rw [Logged.value_bind]
      rcases (Filter.run clock compiler log configuration).value with ⟨fault | fields, next⟩
      · rfl
      · cases fields <;> rfl

theorem transform_compiler (clock : Time.Moment) (compiler : Compiler)
    (log configuration : Option Text) (explain : Bool) :
    (transform clock compiler log configuration explain).value.2 =
      match log.filter (!·.isEmpty), configuration.filter (!·.isEmpty) with
      | some log, some configuration => (Filter.run clock compiler log configuration).value.2
      | _, _ => compiler := by
  unfold transform
  cases log.filter (!·.isEmpty) with
  | none => rfl
  | some log =>
    cases configuration.filter (!·.isEmpty) with
    | none => rfl
    | some configuration =>
      dsimp only
      rw [Logged.value_bind]
      rcases (Filter.run clock compiler log configuration).value with ⟨fault | fields, next⟩
      · rfl
      · cases fields <;> rfl

namespace Reliable

variable {registry : Registry} {passes : Nat} {compiler : Compiler}

theorem run (reliable : Reliable registry passes compiler) (clock : Time.Moment)
    (log configuration : Text) :
    Reliable registry passes (Filter.run clock compiler log configuration).value.2 := by
  rw [run_compiler]
  rcases (Filter.plan? configuration).value with _ | ⟨filter, source⟩
  · exact reliable
  · exact reliable.compile source

/-- A request leaves a reliable compiler. -/
theorem after (reliable : Reliable registry passes compiler) (request : Request) :
    Reliable registry passes (request.after compiler) := by
  cases request with
  | compile source => exact reliable.compile source
  | run clock log configuration => exact reliable.run clock log configuration
  | transform clock log configuration explain =>
    show Reliable registry passes
      (GrokEvents.transform clock compiler log configuration explain).value.2
    rw [transform_compiler]
    split
    · exact reliable.run clock _ _
    · exact reliable

theorem served (reliable : Reliable registry passes compiler) (requests : List Request) :
    Reliable registry passes (served compiler requests) := by
  induction requests generalizing compiler with
  | nil => exact reliable
  | cons request requests ih => exact ih (reliable.after request)

end Reliable

/-- Whatever a compiler has served since it was built, its cache holds no untruth. -/
theorem reliable_served (registry : Registry) (passes cacheSize : Nat) (requests : List Request) :
    Reliable registry passes (served (.fresh registry passes cacheSize) requests) :=
  (Reliable.fresh registry passes cacheSize).served requests

end GrokEvents
