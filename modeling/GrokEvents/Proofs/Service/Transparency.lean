/-
**History does not show.**

A compiler keeps patterns for later, moves them about and drops them again, and may end a request in
a fault. Nothing of this shows in what it gives: every request is met as by a compiler that was just
built, whatever the size of either cache is.

* `Reliable.outcome_eq`: two reliable compilers of one registry meet a request alike.
* `outcomes_of_history`: the outcomes of any requests in a row, and the three ways to a compiler of
  the built-in patterns.
-/

import GrokEvents.Proofs.Service.History
import GrokEvents.Settings

namespace GrokEvents

open Grok

variable [Expr.Engine]

/-! ### Outcomes -/

/-- What a request is met with. -/
inductive Response where
  | pattern (compiled : Pattern)
  | fields (found : Option Fields)
  | answer (given : Answer)

/-- What a compiler meets a request with, or the fault that ends the request. -/
def Request.outcome (compiler : Compiler) : Request → Except Expr.Fault Response
  | .compile source => (compiler.compile source).value.1.map .pattern
  | .run clock log configuration =>
    (Filter.run clock compiler log configuration).value.1.map .fields
  | .transform clock log configuration explain =>
    (GrokEvents.transform clock compiler log configuration explain).value.1.map .answer

/-- The outcomes of requests to one compiler, one after the other. A request that ends in a fault leaves
the compiler to the next one. -/
def outcomes (compiler : Compiler) : List Request → List (Except Expr.Fault Response)
  | [] => []
  | request :: requests => request.outcome compiler :: outcomes (request.after compiler) requests

/-! ### Transparency -/

namespace Reliable

variable {registry : Registry} {passes : Nat} {first second : Compiler}

theorem compile_value_eq (one : Reliable registry passes first)
    (other : Reliable registry passes second) (source : Text) :
    (first.compile source).value.1 = (second.compile source).value.1 := by
  rw [one.compile_value, other.compile_value]

theorem run_value_eq (one : Reliable registry passes first)
    (other : Reliable registry passes second) (clock : Time.Moment) (log configuration : Text) :
    (Filter.run clock first log configuration).value.1 =
      (Filter.run clock second log configuration).value.1 := by
  rw [run_value, run_value]
  rcases (Filter.plan? configuration).value with _ | ⟨filter, source⟩
  · rfl
  · dsimp only
    rw [one.compile_value_eq other]

/-- Two reliable compilers of one registry meet a request alike, whatever each has kept. -/
theorem outcome_eq (one : Reliable registry passes first) (other : Reliable registry passes second)
    (request : Request) : request.outcome first = request.outcome second := by
  cases request with
  | compile source =>
    rw [Request.outcome, Request.outcome, one.compile_value_eq other]
  | run clock log configuration =>
    rw [Request.outcome, Request.outcome, one.run_value_eq other]
  | transform clock log configuration explain =>
    rw [Request.outcome, Request.outcome, transform_value, transform_value]
    split
    · rw [one.run_value_eq other]
    · rfl

/-- Requests in a row are met like each of them alone. -/
theorem outcomes_eq_map (one : Reliable registry passes first)
    (other : Reliable registry passes second) (requests : List Request) :
    outcomes first requests = requests.map (Request.outcome second) := by
  induction requests generalizing first with
  | nil => rfl
  | cons request requests ih =>
    rw [outcomes, List.map_cons, one.outcome_eq other, ih (one.after request)]

end Reliable

/-- **History does not show.** Requests in a row to a compiler are met, each of them, as by another
compiler of the same registry and passes that was just built; and whatever a compiler of the built-in
patterns has served, a run gives what it gives with one just built, by itself or from settings for which
nothing is given. -/
theorem outcomes_of_history (registry : Registry) (passes cacheSize otherSize : Nat)
    (requests : List Request) :
    outcomes (.fresh registry passes cacheSize) requests =
        requests.map (Request.outcome (.fresh registry passes otherSize)) ∧
      ∃ settings, Settings.create Settings.defaultBudget [] = .ok settings ∧
        ∀ clock log configuration,
          let afterwards := (Filter.run clock (served .default requests) log configuration).value.1
          afterwards = (Filter.run clock .default log configuration).value.1 ∧
            afterwards = (Filter.run clock settings.compiler log configuration).value.1 := by
  refine ⟨(Reliable.fresh _ _ _).outcomes_eq_map (.fresh _ _ _) requests, .default, rfl,
    ?_⟩
  intro clock log configuration
  have ready : Reliable .builtin Compiler.defaultPasses .default := .fresh _ _ _
  have asked : Reliable .builtin Compiler.defaultPasses Settings.default.compiler := .fresh _ _ _
  have later := ready.served requests
  exact ⟨later.run_value_eq ready clock log configuration,
    later.run_value_eq asked clock log configuration⟩

end GrokEvents
