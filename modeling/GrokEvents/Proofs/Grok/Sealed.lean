/-
**Sealed registries.**

A text may hold what looks like a token and is none, so that it is not percent-clean. A pass still
leaves it so where every fragment is clean and starts with a character that no token goes on with:
what stands in the place of a token then neither completes a token begun before it nor begins one of
its own.

* `pieces_substitute`: the pieces after a pass over any text.
* `stuck_substitute_iff`: a pass neither makes nor mends what looks like a token and is none.
* `expandFrom_of_sealed`: what enough passes come to, over any text.
-/

import GrokEvents.Proofs.Grok.Passes
import GrokEvents.Proofs.Grok.Replacing

namespace GrokEvents.Grok

open Text

/-! ### Sealed registries -/

/-- Whether a text starts with a character, and with none that a token goes on with. -/
def breaksToken : Text → Bool
  | [] => false
  | char :: _ => !continuesToken char

/-- Every fragment that a name may mean is clean, and starts with a character that no token goes on
with. -/
structure Registry.Sealed (registry : Registry) : Prop where
  clean : ∀ name, PercentClean (registry.fragment name)
  breaks : ∀ name, breaksToken (registry.fragment name) = true

variable {registry : Registry}

/-- What stands in the place of a token breaks off any token begun before it. -/
theorem Registry.Sealed.breaksOff (isSealed : registry.Sealed) :
    Breaks continuesToken fun token => token.wrap (registry.fragment token.name) := by
  refine breaks_wrap rfl rfl fun name => ?_
  have breaks := isSealed.breaks name
  match fragment : registry.fragment name with
  | [] =>
    rw [fragment] at breaks
    cases breaks
  | char :: rest =>
    rw [fragment] at breaks
    exact ⟨char, rest, rfl, Bool.not_eq_true' _ ▸ breaks⟩

theorem Registry.Sealed.clean_wrap (isSealed : registry.Sealed) (token : Token)
    (wellFormed : token.WellFormed) : PercentClean (token.wrap (registry.fragment token.name)) :=
  Token.clean_wrap wellFormed (isSealed.clean token.name)

/-- **The pieces after a pass**, over any text. -/
theorem pieces_substitute (isSealed : registry.Sealed) (text : Text) :
    pieces (substitute registry text) = (pieces text).flatMap (Piece.spread registry) := by
  rw [substitute_eq_replaced, pieces_replaced isSealed.breaksOff isSealed.clean_wrap]
  refine List.flatMap_congr fun piece member => ?_
  cases piece with
  | literal char => rfl
  | token token =>
    have wellFormed := (exists_suffix_of_token member).1
    have spread := pieces_wrap_append wellFormed (isSealed.clean token.name) []
    rw [List.append_nil] at spread
    exact spread.trans (List.append_nil _)

/-- **A pass neither makes nor mends what looks like a token and is none.** -/
theorem stuck_substitute_iff (isSealed : registry.Sealed) (text : Text) :
    Stuck (substitute registry text) ↔ Stuck text := by
  rw [substitute_eq_replaced, stuck_replaced_iff isSealed.breaksOff isSealed.clean_wrap]

/-! ### Passes over any text -/

/-- A pass leaves a text without a token as it is. -/
theorem pass_of_no_token {text : Text} (none : ∀ token, .token token ∉ pieces text)
    (fields : List Text) (types : Entries Text Text) :
    Expansion.pass registry ⟨text, fields, types⟩ = ⟨text, fields, types⟩ := by
  have literal (piece : Piece) (member : piece ∈ pieces text) :
      piece.replacement registry = piece.spell ∧ piece.field? = .none ∧ piece.type? = .none := by
    cases piece with
    | literal char => exact ⟨rfl, rfl, rfl⟩
    | token token => exact absurd member (none token)
  have same : (pieces text).flatMap (Piece.replacement registry) = text := by
    rw [List.flatMap_congr fun piece member => (literal piece member).1, spell_pieces]
  have fieldless : (pieces text).filterMap Piece.field? = [] :=
    List.filterMap_eq_nil_iff.mpr fun piece member => (literal piece member).2.1
  have typeless : (pieces text).filterMap Piece.type? = [] :=
    List.filterMap_eq_nil_iff.mpr fun piece member => (literal piece member).2.2
  simp only [Expansion.pass, same, fieldless, typeless, List.append_nil]
  rfl

/-- Passes leave a text without a token as it is, even where something is stuck in it. -/
theorem expandFrom_of_no_token {text : Text} (none : ∀ token, .token token ∉ pieces text)
    (budget : Nat) (fields : List Text) (types : Entries Text Text) :
    (expandFrom registry budget ⟨text, fields, types⟩).value = ⟨text, fields, types⟩ := by
  cases budget with
  | zero => rfl
  | succ budget =>
    cases pending : isPending text with
    | false => exact expandFrom_of_settled pending _ fields types
    | true =>
      have pass : Expansion.pass registry ⟨text, fields, types⟩ = ⟨text, fields, types⟩ :=
        pass_of_no_token none fields types
      rw [expandFrom_of_unchanged pending (congrArg Expansion.text pass), pass]

/-- A pass changes a text with a token in it. -/
theorem substitute_ne {text : Text} {meaning : Meaning} (isSealed : registry.Sealed)
    (unfolds : Unfolds registry (pieces text) meaning) (deep : meaning.depth ≠ 0) :
    substitute registry text ≠ text := by
  intro same
  obtain ⟨next, unfolds', depth, -, -⟩ := unfolds.spread
  rw [← pieces_substitute isSealed, same] at unfolds'
  have := congrArg Meaning.depth (unfolds.unique unfolds')
  omega

/-- **What enough passes come to, over any text**: the text that is meant and the tags on the way. No
token is left, and what was stuck before still is. -/
theorem expandFrom_of_sealed (isSealed : registry.Sealed) {text : Text} {meaning : Meaning}
    (unfolds : Unfolds registry (pieces text) meaning) {budget : Nat} (enough : meaning.depth ≤ budget)
    (fields : List Text) (types : Entries Text Text) :
    let last := (expandFrom registry budget ⟨text, fields, types⟩).value
    last.text = meaning.text ∧ last.fields.Perm (fields ++ meaning.tags) ∧
      (∀ token, .token token ∉ pieces last.text) ∧ (Stuck last.text ↔ Stuck text) := by
  induction budget generalizing text meaning fields types with
  | zero =>
    obtain ⟨none, means, tags⟩ := unfolds.of_depth_eq_zero (Nat.le_zero.mp enough)
    rw [spell_pieces] at means
    rw [expandFrom_of_no_token none, means, tags, List.append_nil]
    exact ⟨rfl, .rfl, none, Iff.rfl⟩
  | succ budget ih =>
    by_cases flat : meaning.depth = 0
    · obtain ⟨none, means, tags⟩ := unfolds.of_depth_eq_zero flat
      rw [spell_pieces] at means
      rw [expandFrom_of_no_token none, means, tags, List.append_nil]
      exact ⟨rfl, .rfl, none, Iff.rfl⟩
    · have token : ∃ token, .token token ∈ pieces text := by
        rwa [unfolds.depth_eq_zero_iff, not_not] at flat
      have pending := isPending_iff_token_or_stuck.mpr (.inl token)
      rw [expandFrom_of_changed pending (substitute_ne isSealed unfolds flat)]
      obtain ⟨next, unfolds', depth, means, tags⟩ := unfolds.spread
      rw [← pieces_substitute isSealed] at unfolds'
      obtain ⟨isText, isFields, none, stuck⟩ := ih unfolds' (by omega)
        (fields ++ (pieces text).filterMap Piece.field?)
        (Entries.extend types ((pieces text).filterMap Piece.type?))
      refine ⟨isText.trans means, isFields.trans ?_, none,
        stuck.trans (stuck_substitute_iff isSealed text)⟩
      rw [List.append_assoc]
      exact (tags.append_left fields).symm

end GrokEvents.Grok
