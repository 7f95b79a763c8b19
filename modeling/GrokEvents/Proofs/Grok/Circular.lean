/-
**References that go round.**

A token of a fragment is a token of every text that the fragment is put into. Where references lead from
some token of a source round in a circle, every pass therefore leaves such a token behind, and expanding
comes to no end of its own: the budget is spent, or a pass changes nothing.

* `expandFrom_eq_iterate`: an expansion is so many passes, one after the other.
* `HasCircle.substitute`: a pass keeps a token from which references go round.
* `expand_of_hasCircle`: an expansion with such a token is never resolved.
-/

import Mathlib.Logic.Function.Iterate
import GrokEvents.Proofs.Grok.Budget

namespace GrokEvents.Grok

open Relation

variable {registry : Registry}

/-! ### The passes that are made -/

/-- How many passes over a text an expansion makes within a budget. -/
def passesMade (registry : Registry) : (budget : Nat) → Text → Nat
  | 0, _ => 0
  | budget + 1, text =>
    if isPending text then
      let next := substitute registry text
      if next = text then 1 else passesMade registry budget next + 1
    else 0

theorem passesMade_le (registry : Registry) (budget : Nat) (text : Text) :
    passesMade registry budget text ≤ budget := by
  induction budget generalizing text with
  | zero => exact Nat.le_refl 0
  | succ budget ih =>
    rw [passesMade]
    split
    · dsimp only
      split
      · exact Nat.le_add_left 1 budget
      · exact Nat.succ_le_succ (ih _)
    · exact Nat.zero_le _

/-- **An expansion is so many passes, one after the other**, and more would be made within the
budget but for an expansion at rest. -/
theorem expandFrom_eq_iterate (registry : Registry) (budget : Nat) (expansion : Expansion) :
    let last := (Expansion.pass registry)^[passesMade registry budget expansion.text] expansion
    (expandFrom registry budget expansion).value = last ∧
      (passesMade registry budget expansion.text < budget → last.AtRest registry) := by
  induction budget generalizing expansion with
  | zero => exact ⟨rfl, fun less => absurd less (Nat.lt_irrefl 0)⟩
  | succ budget ih =>
    obtain ⟨text, fields, types⟩ := expansion
    dsimp only
    rw [passesMade]
    cases pending : isPending text with
    | false =>
      refine ⟨expandFrom_of_settled pending _ fields types, fun _ => .inl ?_⟩
      exact congrArg not pending
    | true =>
      rw [if_pos rfl]
      dsimp only
      by_cases same : substitute registry text = text
      · rw [if_pos same]
        refine ⟨expandFrom_of_unchanged pending same budget fields types, fun _ => .inr ?_⟩
        exact congrArg (substitute registry) same
      · rw [if_neg same, Function.iterate_succ_apply, expandFrom_of_changed pending same]
        obtain ⟨isLast, rests⟩ := ih (Expansion.pass registry ⟨text, fields, types⟩)
        exact ⟨isLast, fun less => rests (Nat.lt_of_succ_lt_succ less)⟩

theorem text_iterate_pass (registry : Registry) (passes : Nat) (expansion : Expansion) :
    ((Expansion.pass registry)^[passes] expansion).text =
      (substitute registry)^[passes] expansion.text :=
  have step : Function.Semiconj Expansion.text (Expansion.pass registry) (substitute registry) :=
    fun _ => rfl
  step.iterate_right passes expansion

/-! ### Circles -/

/-- The fragment of a name has a token of another name. An unknown name has the catch-all's. -/
def LooksUp (registry : Registry) (name other : Text) : Prop :=
  ∃ token, .token token ∈ pieces (registry.fragment name) ∧ token.name = other

/-- References lead from a name to one that leads back to itself. -/
def GoesRound (registry : Registry) (name : Text) : Prop :=
  ∃ other, ReflTransGen (LooksUp registry) name other ∧ TransGen (LooksUp registry) other other

/-- A text has a token from whose name references go round. -/
def HasCircle (registry : Registry) (text : Text) : Prop :=
  ∃ token, .token token ∈ pieces text ∧ GoesRound registry token.name

/-- On the way round there is always a next token. -/
theorem GoesRound.hasCircle {name : Text} (round : GoesRound registry name) :
    HasCircle registry (registry.fragment name) := by
  obtain ⟨other, path, circle⟩ := round
  have onward : ∃ next, LooksUp registry name next ∧ ReflTransGen (LooksUp registry) next other := by
    rcases path.cases_head with rfl | onward
    · exact TransGen.head'_iff.mp circle
    · exact onward
  obtain ⟨_, ⟨token, member, rfl⟩, path⟩ := onward
  exact ⟨token, member, other, path, circle⟩

namespace HasCircle

variable {text whole : Text}

/-- A token of a part is one of the whole. -/
theorem mono (circle : HasCircle registry text) (part : text <:+: whole) :
    HasCircle registry whole := by
  obtain ⟨token, member, round⟩ := circle
  obtain ⟨wellFormed, stands⟩ := token_mem_pieces_iff.mp member
  exact ⟨token, token_mem_pieces_iff.mpr ⟨wellFormed, stands.trans part⟩, round⟩

/-- **A pass keeps a token from which references go round**: where it stood, the next one stands. -/
theorem substitute (circle : HasCircle registry text) :
    HasCircle registry (substitute registry text) := by
  obtain ⟨token, member, round⟩ := circle
  have placed : Piece.replacement registry (.token token) <:+: Grok.substitute registry text := by
    obtain ⟨before, behind, split⟩ := List.append_of_mem member
    rw [Grok.substitute, split, List.flatMap_append, List.flatMap_cons, ← List.append_assoc]
    exact List.infix_append _ _ _
  rw [token.replacement_eq] at placed
  exact round.hasCircle.mono ((List.infix_append _ _ _).trans placed)

theorem iterate (circle : HasCircle registry text) (passes : Nat) :
    HasCircle registry ((Grok.substitute registry)^[passes] text) := by
  induction passes generalizing text with
  | zero => exact circle
  | succ passes ih =>
    rw [Function.iterate_succ_apply]
    exact ih circle.substitute

theorem isPending (circle : HasCircle registry text) : isPending text = true := by
  obtain ⟨token, member, -⟩ := circle
  exact isPending_iff_token_or_stuck.mpr (.inl ⟨token, member⟩)

end HasCircle

/-- **References that go round are never resolved.** Whatever the budget, no more passes are made
than it allows, fewer only where a pass leaves the text as it is, and what they come to still looks
like a token somewhere, which is noted. -/
theorem expand_of_hasCircle {source : Text} (circle : HasCircle registry source) (budget : Nat) :
    let last := (expand registry budget source).value
    let passes := passesMade registry budget source
    last.isResolved = false ∧ passes ≤ budget ∧
      last = (Expansion.pass registry)^[passes] ⟨source, [], []⟩ ∧
      (passes < budget → substitute registry last.text = last.text) ∧
        .unresolvedExpansion ∈ (expand registry budget source).notices := by
  intro last passes
  obtain ⟨isLast, rests⟩ := expandFrom_eq_iterate registry budget ⟨source, [], []⟩
  have isLast : last = (Expansion.pass registry)^[passes] ⟨source, [], []⟩ :=
    (expand_value registry budget source).trans isLast
  have unresolved : last.isResolved = false := by
    rw [Expansion.isResolved, isLast, text_iterate_pass, (circle.iterate passes).isPending]
    rfl
  refine ⟨unresolved, passesMade_le registry budget source, isLast, fun less => ?_, ?_⟩
  · rw [isLast] at unresolved ⊢
    exact (rests less).resolve_left (Bool.eq_false_iff.mp unresolved)
  · have ended : (expandFrom registry budget ⟨source, [], []⟩).value.isResolved = false := by
      rw [← expand_value]
      exact unresolved
    unfold expand
    rw [Logged.notices_bind, ended]
    exact List.mem_append_right _ List.mem_cons_self

/-- A registry in which references go round over an unknown name, which means the catch-all. -/
def roundabout : Registry :=
  ⟨[("DATA".toList, "%\x7bLEFT\x7d?".toList), ("LEFT".toList, "<%\x7bRIGHT:r\x7d>".toList),
    ("RIGHT".toList, "%\x7bNOBODY:x:int\x7d".toList), ("WAY".toList, "%%\x7bLEFT\x7d".toList),
    ("SELF".toList, "%\x7bSELF\x7d".toList)]⟩

/-- The way into a circle is never resolved, nor is a pattern that is its own fragment. -/
theorem expand_of_hasCircle_roundabout :
    let way := "%\x7bA%\x7bWAY:w:t\x7d\x7d".toList
    let self := "%\x7bSELF\x7d".toList
    HasCircle roundabout way ∧ (expand roundabout 4 way).value.isResolved = false ∧
      (expand roundabout 4 way).value.text = "%\x7bA(?P<w>%<(?P<r>(?P<x>%\x7bLEFT\x7d?))>)\x7d".toList ∧
        HasCircle roundabout self ∧ (expand roundabout 9 self).value.isResolved = false ∧
          passesMade roundabout 9 self = 1 := by
  intro way self
  have next {name other : Text} (tag : Option Tag)
      (member : Piece.token ⟨other, tag⟩ ∈ pieces (roundabout.fragment name)) :
      LooksUp roundabout name other := ⟨⟨other, tag⟩, member, rfl⟩
  have onward : LooksUp roundabout "WAY".toList "LEFT".toList := next none (by decide +kernel)
  have right : LooksUp roundabout "LEFT".toList "RIGHT".toList :=
    next (some ⟨"r".toList, none⟩) (by decide +kernel)
  have nobody : LooksUp roundabout "RIGHT".toList "NOBODY".toList :=
    next (some ⟨"x".toList, some "int".toList⟩) (by decide +kernel)
  have left : LooksUp roundabout "NOBODY".toList "LEFT".toList := next none (by decide +kernel)
  have alone : LooksUp roundabout "SELF".toList "SELF".toList := next none (by decide +kernel)
  have circle : HasCircle roundabout way :=
    ⟨⟨"WAY".toList, some ⟨"w".toList, some "t".toList⟩⟩, by decide +kernel, "LEFT".toList,
      .single onward, ((TransGen.single right).tail nobody).tail left⟩
  have loop : HasCircle roundabout self :=
    ⟨⟨"SELF".toList, none⟩, by decide +kernel, "SELF".toList, .refl, .single alone⟩
  exact ⟨circle, (expand_of_hasCircle circle 4).1, by decide +kernel, loop,
    (expand_of_hasCircle loop 9).1, by decide +kernel⟩

end GrokEvents.Grok
