/-
**What a text means in the end.**

The meaning of a text is given by recursion, fragment by fragment: every token is replaced by the
meaning of its fragment, in a named group where it is tagged.

* `Unfolds.spread`: a pass takes one from the depth and leaves the meaning.
* `exists_unfolds`: where references go round in no circle, every text has a meaning.
-/

import Mathlib.Data.Fintype.Card
import Mathlib.Data.Set.Finite.Basic
import Mathlib.Logic.Relation
import GrokEvents.Proofs.Grok.Clean

namespace GrokEvents.Grok

open Text

/-! ### Meanings -/

/-- What a text comes to when all its tokens are followed to the end. -/
structure Meaning where
  /-- None without a token, and otherwise one more than the greatest depth of a fragment. -/
  depth : Nat
  text : Text
  /-- The fields of all tags on the way. -/
  tags : List Text

/-- The fields that a token declares. -/
def Token.declared (token : Token) : List Text :=
  (token.tag.map Tag.field).toList

theorem filterMap_field?_token (token : Token) (rest : List Piece) :
    (Piece.token token :: rest).filterMap Piece.field? =
      token.declared ++ rest.filterMap Piece.field? := by
  rw [List.filterMap_cons, Piece.field?, Token.declared]
  cases token.tag <;> rfl

theorem filterMap_field?_literal (char : Char) (rest : List Piece) :
    (Piece.literal char :: rest).filterMap Piece.field? = rest.filterMap Piece.field? := rfl

/-- The meaning of a row of pieces, by recursion into the fragments of its tokens. -/
inductive Unfolds (registry : Registry) : List Piece → Meaning → Prop where
  | nil : Unfolds registry [] ⟨0, [], []⟩
  | literal {rest : List Piece} {after : Meaning} (char : Char) (tail : Unfolds registry rest after) :
      Unfolds registry (.literal char :: rest) ⟨after.depth, char :: after.text, after.tags⟩
  | token {rest : List Piece} {inner after : Meaning} (token : Token)
      (fragment : Unfolds registry (pieces (registry.fragment token.name)) inner)
      (tail : Unfolds registry rest after) :
      Unfolds registry (.token token :: rest)
        ⟨max (inner.depth + 1) after.depth, token.wrap inner.text ++ after.text,
          token.declared ++ inner.tags ++ after.tags⟩

namespace Unfolds

variable {registry : Registry}

/-- A row of pieces has one meaning. -/
theorem unique {row : List Piece} {first second : Meaning} (one : Unfolds registry row first)
    (two : Unfolds registry row second) : first = second := by
  induction one generalizing second with
  | nil =>
    cases two
    rfl
  | literal char tail ih =>
    cases two with
    | literal _ tail' => rw [ih tail']
  | token token fragment tail ihFragment ihTail =>
    cases two with
    | token _ fragment' tail' => rw [ihFragment fragment', ihTail tail']

theorem append {before behind : List Piece} {first second : Meaning}
    (one : Unfolds registry before first) (two : Unfolds registry behind second) :
    Unfolds registry (before ++ behind)
      ⟨max first.depth second.depth, first.text ++ second.text, first.tags ++ second.tags⟩ := by
  induction one with
  | nil =>
    rw [Nat.zero_max]
    exact two
  | literal char tail ih => exact .literal char ih
  | token token fragment tail _ ih =>
    have row := Unfolds.token token fragment ih
    simpa [Nat.max_assoc] using row

theorem literals (registry : Registry) (text : Text) :
    Unfolds registry (text.map .literal) ⟨0, text, []⟩ := by
  induction text with
  | nil => exact .nil
  | cons char text ih => exact .literal char ih

/-- A row without depth has no token, and it means what it spells. -/
theorem of_depth_eq_zero {row : List Piece} {meaning : Meaning}
    (unfolds : Unfolds registry row meaning) (flat : meaning.depth = 0) :
    (∀ token, .token token ∉ row) ∧ meaning.text = row.flatMap Piece.spell ∧ meaning.tags = [] := by
  induction unfolds with
  | nil => exact ⟨fun _ => List.not_mem_nil, rfl, rfl⟩
  | literal char tail ih =>
    obtain ⟨none, text, tags⟩ := ih flat
    refine ⟨?_, ?_, tags⟩
    · intro token member
      rcases List.mem_cons.mp member with same | member
      · cases same
      · exact none token member
    · rw [List.flatMap_cons, ← text]
      rfl
  | token token fragment tail _ _ =>
    have deep := Nat.le_max_left (_ + 1) _ |>.trans_eq flat
    exact absurd deep (Nat.not_succ_le_zero _)

theorem depth_eq_zero_iff {row : List Piece} {meaning : Meaning}
    (unfolds : Unfolds registry row meaning) :
    meaning.depth = 0 ↔ ¬ ∃ token, .token token ∈ row := by
  constructor
  · rintro flat ⟨reference, member⟩
    exact (unfolds.of_depth_eq_zero flat).1 reference member
  · intro none
    induction unfolds with
    | nil => rfl
    | literal char tail ih =>
      exact ih fun ⟨reference, member⟩ => none ⟨reference, List.mem_cons_of_mem _ member⟩
    | token token fragment tail _ _ => exact absurd ⟨token, List.mem_cons_self⟩ none

/-- **A pass takes one from the depth.** What the row means stays as it is, but for the tags that the
pass has met. -/
theorem spread {row : List Piece} {meaning : Meaning} (unfolds : Unfolds registry row meaning) :
    ∃ next, Unfolds registry (row.flatMap (Piece.spread registry)) next ∧
      next.depth = meaning.depth - 1 ∧ next.text = meaning.text ∧
        meaning.tags.Perm (row.filterMap Piece.field? ++ next.tags) := by
  induction unfolds with
  | nil => exact ⟨⟨0, [], []⟩, .nil, rfl, rfl, .nil⟩
  | literal char tail ih =>
    obtain ⟨next, unfolds, depth, text, tags⟩ := ih
    exact ⟨_, .literal char unfolds, depth, congrArg (char :: ·) text, tags⟩
  | @token rest inner after token fragment tail _ ih =>
    obtain ⟨next, unfolds, depth, text, tags⟩ := ih
    have row := (((literals registry token.opening).append fragment).append
      (literals registry token.closing)).append unfolds
    refine ⟨_, row, ?_, ?_, ?_⟩
    · dsimp only
      omega
    · dsimp only
      rw [text]
      rfl
    · rw [filterMap_field?_token]
      simp only [List.nil_append, List.append_nil, List.append_assoc]
      apply List.Perm.append_left
      exact (tags.append_left inner.tags).trans (List.perm_append_comm_assoc _ _ _)

end Unfolds

/-! ### References -/

/-- The fragments that a text refers to. -/
def fragmentsOf (registry : Registry) (text : Text) : List Text :=
  (pieces text).filterMap fun
    | .literal _ => none
    | .token reference => some (registry.fragment reference.name)

/-- A text refers to a fragment. -/
def Refers (registry : Registry) (text fragment : Text) : Prop :=
  fragment ∈ fragmentsOf registry text

theorem refers_iff {registry : Registry} {text fragment : Text} : Refers registry text fragment ↔
    ∃ token : Token, .token token ∈ pieces text ∧ registry.fragment token.name = fragment := by
  unfold Refers fragmentsOf
  rw [List.mem_filterMap]
  constructor
  · rintro ⟨char | token, member, same⟩
    · cases same
    · exact ⟨token, member, Option.some.inj same⟩
  · rintro ⟨token, member, rfl⟩
    exact ⟨.token token, member, rfl⟩

/-- A fragment is reached from a text by references. -/
def Reaches (registry : Registry) : Text → Text → Prop :=
  Relation.ReflTransGen (Refers registry)

/-- There are only so many fragments. -/
theorem fragment_mem (registry : Registry) (name : Text) :
    registry.fragment name ∈ [] :: registry.entries.map Prod.snd := by
  have known {name fragment : Text} (found : Entries.get? name registry.entries = some fragment) :
      fragment ∈ [] :: registry.entries.map Prod.snd :=
    List.mem_cons_of_mem _ (List.mem_map_of_mem (Entries.mem_of_get? found))
  unfold Registry.fragment Registry.get?
  cases found : Entries.get? name registry.entries with
  | some fragment => exact known found
  | none =>
    cases fallback : Entries.get? Registry.fallbackName registry.entries with
    | some fragment => exact known fallback
    | none => exact List.mem_cons_self

theorem reached_finite (registry : Registry) (source : Text) :
    {text | Reaches registry source text}.Finite := by
  apply (List.finite_toSet (source :: [] :: registry.entries.map Prod.snd)).subset
  intro text reached
  rcases Relation.ReflTransGen.cases_tail reached with same | ⟨before, -, refers⟩
  · rw [same]
    exact List.mem_cons_self
  · obtain ⟨token, -, rfl⟩ := refers_iff.mp refers
    exact List.mem_cons_of_mem _ (fragment_mem registry token.name)

/-- References go round in no circle. -/
def Acyclic (registry : Registry) (source : Text) : Prop :=
  ∀ text, Reaches registry source text → ¬ Relation.TransGen (Refers registry) text text

/-- Where references go round in no circle, following them comes to an end. -/
theorem acc_of_acyclic {registry : Registry} {source : Text} (acyclic : Acyclic registry source) :
    Acc (fun fragment text => Refers registry text fragment) source := by
  let Reached := {text // Reaches registry source text}
  let below (fragment text : Reached) : Prop :=
    Relation.TransGen (Refers registry) text.1 fragment.1
  have : Finite Reached := (reached_finite registry source).to_subtype
  have : IsTrans Reached below := ⟨fun _ _ _ first second => second.trans first⟩
  have : Std.Irrefl below := ⟨fun text circle => acyclic text.1 text.2 circle⟩
  have wellFounded : WellFounded below := Finite.wellFounded_of_trans_of_irrefl below
  have accessible (text : Reached) :
      Acc (fun fragment text => Refers registry text fragment) text.1 := by
    induction text using wellFounded.induction with
    | _ text ih =>
      refine ⟨_, fun fragment refers => ?_⟩
      exact ih ⟨fragment, text.2.tail refers⟩ (.single refers)
  exact accessible ⟨source, .refl⟩

/-- Every text of the list refers only to texts behind it. -/
def Sorted (registry : Registry) (texts : List Text) : Prop :=
  ∀ text ∈ texts, ∀ fragment ∈ fragmentsOf registry text,
    fragment ∈ texts ∧ texts.idxOf text < texts.idxOf fragment

instance (registry : Registry) (texts : List Text) : Decidable (Sorted registry texts) :=
  inferInstanceAs (Decidable (∀ text ∈ texts, ∀ fragment ∈ fragmentsOf registry text, _))

theorem Sorted.mem_of_reaches {registry : Registry} {texts : List Text}
    (sorted : Sorted registry texts) {source text : Text} (member : source ∈ texts)
    (reached : Reaches registry source text) : text ∈ texts := by
  induction reached with
  | refl => exact member
  | tail _ refers ih => exact (sorted _ ih _ refers).1

theorem Sorted.acyclic {registry : Registry} {texts : List Text} (sorted : Sorted registry texts)
    {source : Text} (member : source ∈ texts) : Acyclic registry source := by
  intro text reached circle
  have inTexts := sorted.mem_of_reaches member reached
  have onward {fragment : Text} (path : Relation.TransGen (Refers registry) text fragment) :
      fragment ∈ texts ∧ texts.idxOf text < texts.idxOf fragment := by
    induction path with
    | single refers => exact sorted _ inTexts _ refers
    | tail _ refers ih =>
      obtain ⟨before, less⟩ := ih
      obtain ⟨behind, more⟩ := sorted _ before _ refers
      exact ⟨behind, less.trans more⟩
  exact absurd (onward circle).2 (Nat.lt_irrefl _)

theorem exists_unfolds_row {registry : Registry} {row : List Piece}
    (fragments : ∀ token : Token, .token token ∈ row →
      ∃ inner, Unfolds registry (pieces (registry.fragment token.name)) inner) :
    ∃ meaning, Unfolds registry row meaning := by
  induction row with
  | nil => exact ⟨_, .nil⟩
  | cons piece row ih =>
    obtain ⟨after, tail⟩ := ih fun token member => fragments token (List.mem_cons_of_mem _ member)
    cases piece with
    | literal char => exact ⟨_, .literal char tail⟩
    | token token =>
      obtain ⟨inner, fragment⟩ := fragments token List.mem_cons_self
      exact ⟨_, .token token fragment tail⟩

/-- Where references go round in no circle, a text has a meaning. -/
theorem exists_unfolds {registry : Registry} {source : Text} (acyclic : Acyclic registry source) :
    ∃ meaning, Unfolds registry (pieces source) meaning := by
  have accessible := acc_of_acyclic acyclic
  clear acyclic
  induction accessible with
  | intro text _ ih =>
    apply exists_unfolds_row
    intro token member
    exact ih _ (refers_iff.mpr ⟨token, member, rfl⟩)

end GrokEvents.Grok
