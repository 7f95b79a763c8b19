/-
**Passes come to the meaning.**

Expansion goes pass by pass over the whole text. Over clean texts every pass takes one from the
depth, so that the meaning is reached with just as many passes as the text is deep, and not with
fewer.

* `expandFrom_of_clean`: what any number of passes comes to.
* `expand_of_clean`: the expansion of a source whose references are clean and go round in no circle.
-/

import GrokEvents.Proofs.Grok.Meaning

namespace GrokEvents.Grok

open Text

variable {registry : Registry}

/-! ### Passes -/

/-- The text and all fragments that are reached from it are percent-clean. -/
def CleanBelow (registry : Registry) (source : Text) : Prop :=
  ∀ text, Reaches registry source text → PercentClean text

theorem spell_pieces (text : Text) : (pieces text).flatMap Piece.spell = text := by
  induction text using pieces_induction with
  | nil => rfl
  | token token rest wellFormed ih =>
    rw [pieces_spell_append wellFormed, List.flatMap_cons, ih]
    rfl
  | literal char rest plain ih =>
    rw [pieces_literal plain, List.flatMap_cons, ih]
    rfl

namespace CleanBelow

variable {text : Text}

theorem clean (below : CleanBelow registry text) : PercentClean text :=
  below text .refl

theorem pieces_substitute (below : CleanBelow registry text) :
    pieces (substitute registry text) = (pieces text).flatMap (Piece.spread registry) ∧
      PercentClean (substitute registry text) := by
  apply substitute_of_clean below.clean
  intro token member
  exact below _ (.single (refers_iff.mpr ⟨token, member, rfl⟩))

/-- What a text refers to after a pass, it referred to in two steps before. -/
theorem reaches_of_refers_substitute (below : CleanBelow registry text) {fragment : Text}
    (refers : Refers registry (substitute registry text) fragment) :
    Reaches registry text fragment := by
  obtain ⟨token, member, rfl⟩ := refers_iff.mp refers
  rw [below.pieces_substitute.1, List.mem_flatMap] at member
  obtain ⟨char | outer, inText, inSpread⟩ := member
  · cases List.mem_singleton.mp inSpread
  · have inFragment : .token token ∈ pieces (registry.fragment outer.name) := by
      simpa [Piece.spread] using inSpread
    exact (Relation.ReflTransGen.single (refers_iff.mpr ⟨outer, inText, rfl⟩)).tail
      (refers_iff.mpr ⟨token, inFragment, rfl⟩)

/-- A pass keeps everything below clean. -/
theorem substitute (below : CleanBelow registry text) :
    CleanBelow registry (substitute registry text) := by
  intro found reached
  rcases Relation.ReflTransGen.cases_head reached with rfl | ⟨fragment, refers, onward⟩
  · exact below.pieces_substitute.2
  · exact below found ((below.reaches_of_refers_substitute refers).trans onward)

end CleanBelow

/-! ### One pass after the other -/

theorem expandFrom_of_settled {text : Text} (settled : isPending text = false) (budget : Nat)
    (fields : List Text) (types : Entries Text Text) :
    (expandFrom registry budget ⟨text, fields, types⟩).value = ⟨text, fields, types⟩ := by
  cases budget with
  | zero => rfl
  | succ budget =>
    rw [expandFrom, settled]
    rfl

theorem expandFrom_of_changed {text : Text} (pending : isPending text = true)
    (changed : substitute registry text ≠ text) (budget : Nat) (fields : List Text)
    (types : Entries Text Text) :
    (expandFrom registry (budget + 1) ⟨text, fields, types⟩).value =
      (expandFrom registry budget (Expansion.pass registry ⟨text, fields, types⟩)).value := by
  have changes : (Expansion.pass registry ⟨text, fields, types⟩).text ≠ text := changed
  rw [expandFrom, pending, if_pos rfl]
  dsimp only
  rw [if_neg changes]

theorem expandFrom_of_unchanged {text : Text} (pending : isPending text = true)
    (same : substitute registry text = text) (budget : Nat) (fields : List Text)
    (types : Entries Text Text) :
    (expandFrom registry (budget + 1) ⟨text, fields, types⟩).value =
      Expansion.pass registry ⟨text, fields, types⟩ := by
  have unchanged : (Expansion.pass registry ⟨text, fields, types⟩).text = text := same
  rw [expandFrom, pending, if_pos rfl]
  dsimp only
  rw [if_pos unchanged]

/-- What every pass keeps is kept by any number of passes. -/
theorem expandFrom_induction (holds : Expansion → Prop)
    (pass : ∀ expansion, holds expansion → holds (expansion.pass registry)) (budget : Nat)
    {expansion : Expansion} (start : holds expansion) :
    holds (expandFrom registry budget expansion).value := by
  induction budget generalizing expansion with
  | zero => exact start
  | succ budget ih =>
    obtain ⟨text, fields, types⟩ := expansion
    cases pending : isPending text with
    | false =>
      rw [expandFrom_of_settled pending]
      exact start
    | true =>
      by_cases same : substitute registry text = text
      · rw [expandFrom_of_unchanged pending same]
        exact pass _ start
      · rw [expandFrom_of_changed pending same]
        exact ih (pass _ start)

theorem expand_value (registry : Registry) (budget : Nat) (source : Text) :
    (expand registry budget source).value = (expandFrom registry budget ⟨source, [], []⟩).value := by
  unfold expand
  rw [Logged.value_bind]
  split <;> rfl

/-- Further passes do not touch what is resolved. -/
theorem expandFrom_of_resolved {budget : Nat} {expansion : Expansion}
    (resolved : (expandFrom registry budget expansion).value.isResolved = true) (more : Nat) :
    (expandFrom registry (budget + more) expansion).value =
      (expandFrom registry budget expansion).value := by
  induction budget generalizing expansion with
  | zero =>
    have settled : isPending expansion.text = false := Bool.not_eq_true' _ ▸ resolved
    exact expandFrom_of_settled settled _ expansion.fields expansion.types
  | succ budget ih =>
    obtain ⟨text, fields, types⟩ := expansion
    cases pending : isPending text with
    | false => rw [expandFrom_of_settled pending, expandFrom_of_settled pending]
    | true =>
      by_cases same : substitute registry text = text
      · rw [Nat.succ_add, expandFrom_of_unchanged pending same, expandFrom_of_unchanged pending same]
      · rw [Nat.succ_add, expandFrom_of_changed pending same]
        rw [expandFrom_of_changed pending same] at resolved ⊢
        exact ih resolved

theorem expand_of_resolved {budget : Nat} {source : Text}
    (resolved : (expand registry budget source).value.isResolved = true) (more : Nat) :
    (expand registry (budget + more) source).value = (expand registry budget source).value := by
  rw [expand_value] at resolved ⊢
  rw [expand_value]
  exact expandFrom_of_resolved resolved more

/-- An expansion within a budget is resolved just where the budget is no less than the depth, and then
it has the text and, after the fields found before, the tags that are meant. -/
def ComesTo (meaning : Meaning) (budget : Nat) (before : List Text) (expansion : Expansion) : Prop :=
  (expansion.isResolved = true ↔ meaning.depth ≤ budget) ∧
    (meaning.depth ≤ budget →
      expansion.text = meaning.text ∧ expansion.fields.Perm (before ++ meaning.tags))

/-- A clean text is pending just where it has depth. -/
theorem isPending_iff_depth {text : Text} {meaning : Meaning} (clean : PercentClean text)
    (unfolds : Unfolds registry (pieces text) meaning) :
    isPending text = true ↔ meaning.depth ≠ 0 := by
  rw [isPending_iff_of_clean clean, Ne, unfolds.depth_eq_zero_iff, not_not]

theorem comesTo_of_flat {text : Text} {meaning : Meaning} (clean : PercentClean text)
    (unfolds : Unfolds registry (pieces text) meaning) (flat : meaning.depth = 0) (budget : Nat)
    (fields : List Text) (types : Entries Text Text) :
    ComesTo meaning budget fields (expandFrom registry budget ⟨text, fields, types⟩).value := by
  obtain ⟨-, means, tags⟩ := unfolds.of_depth_eq_zero flat
  have settled : isPending text = false := by
    rw [← Bool.not_eq_true, isPending_iff_depth clean unfolds, not_not]
    exact flat
  rw [expandFrom_of_settled settled]
  refine ⟨?_, fun _ => ⟨?_, ?_⟩⟩
  · rw [Expansion.isResolved, settled, flat]
    simp
  · rw [means, spell_pieces]
  · rw [tags, List.append_nil]

/-- **What any number of passes comes to.** The induction is on the budget: a pass takes one from the
budget and one from the depth. -/
theorem expandFrom_of_clean {text : Text} {meaning : Meaning} (below : CleanBelow registry text)
    (unfolds : Unfolds registry (pieces text) meaning) (budget : Nat) (fields : List Text)
    (types : Entries Text Text) :
    ComesTo meaning budget fields (expandFrom registry budget ⟨text, fields, types⟩).value := by
  induction budget generalizing text meaning fields types with
  | zero =>
    by_cases flat : meaning.depth = 0
    · exact comesTo_of_flat below.clean unfolds flat 0 fields types
    · have pending := (isPending_iff_depth below.clean unfolds).mpr flat
      refine ⟨?_, fun few => absurd (Nat.le_zero.mp few) flat⟩
      show (!isPending text) = true ↔ _
      rw [pending]
      simpa using flat
  | succ budget ih =>
    by_cases flat : meaning.depth = 0
    · exact comesTo_of_flat below.clean unfolds flat (budget + 1) fields types
    · have pending := (isPending_iff_depth below.clean unfolds).mpr flat
      obtain ⟨next, unfolds', depth, means, tags⟩ := unfolds.spread
      rw [← below.pieces_substitute.1] at unfolds'
      -- A pass that changed nothing would leave the depth as it is.
      have changed : substitute registry text ≠ text := by
        intro same
        rw [same] at unfolds'
        have := congrArg Meaning.depth (unfolds.unique unfolds')
        omega
      have oneLess : next.depth ≤ budget ↔ meaning.depth ≤ budget + 1 := by
        omega
      obtain ⟨resolved, reached⟩ := ih below.substitute unfolds'
        (fields ++ (pieces text).filterMap Piece.field?)
        (Entries.extend types ((pieces text).filterMap Piece.type?))
      rw [expandFrom_of_changed pending changed]
      refine ⟨resolved.trans oneLess, fun enough => ?_⟩
      obtain ⟨isText, isFields⟩ := reached (oneLess.mpr enough)
      refine ⟨isText.trans means, isFields.trans ?_⟩
      rw [List.append_assoc]
      exact (tags.append_left fields).symm

/-- **Expansion comes to the meaning of its source** where the source and all that is reached from
it are percent-clean and references go round in no circle. There is one meaning, and the expansion
is resolved just where the budget is no less than its depth. -/
theorem expand_of_clean {registry : Registry} {source : Text} (clean : CleanBelow registry source)
    (acyclic : Acyclic registry source) :
    ∃ meaning, Unfolds registry (pieces source) meaning ∧
      (∀ other, Unfolds registry (pieces source) other → other = meaning) ∧
        ∀ budget, ((expand registry budget source).value.isResolved = true ↔
            meaning.depth ≤ budget) ∧
          (meaning.depth ≤ budget →
            (expand registry budget source).value.text = meaning.text ∧
              (expand registry budget source).value.fields.Perm meaning.tags) := by
  obtain ⟨meaning, unfolds⟩ := exists_unfolds acyclic
  refine ⟨meaning, unfolds, fun other isOther => isOther.unique unfolds, fun budget => ?_⟩
  rw [expand_value]
  exact expandFrom_of_clean clean unfolds budget [] []

/-- A registry whose fragments refer to each other, to an unknown name, and hold a percent sign. -/
def pairs : Registry :=
  ⟨[("DATA".toList, ".*?".toList), ("WORD".toList, "\\w+".toList),
    ("PAIR".toList, "%\x7bWORD:key\x7d=%\x7bWORD\x7d".toList),
    ("PAIRS".toList, "%\x7bPAIR\x7d 100%! %\x7bOTHER:rest\x7d".toList)]⟩

/-- A source over that registry is three passes deep. -/
theorem expand_of_clean_pairs : CleanBelow pairs "%\x7bPAIRS\x7d".toList ∧
    Acyclic pairs "%\x7bPAIRS\x7d".toList ∧
      ∃ meaning, Unfolds pairs (pieces "%\x7bPAIRS\x7d".toList) meaning ∧ meaning.depth = 3 ∧
        meaning.text = "(?P<key>\\w+)=\\w+ 100%! (?P<rest>.*?)".toList := by
  let texts := "%\x7bPAIRS\x7d".toList :: (pairs.entries.map Prod.snd).reverse
  have sorted : Sorted pairs texts := by decide +kernel
  have member : "%\x7bPAIRS\x7d".toList ∈ texts := List.mem_cons_self
  have clean : CleanBelow pairs "%\x7bPAIRS\x7d".toList := by
    intro text reached
    have all : ∀ text ∈ texts, PercentClean text := by decide +kernel
    exact all text (sorted.mem_of_reaches member reached)
  obtain ⟨meaning, unfolds, -, comes⟩ := expand_of_clean clean (sorted.acyclic member)
  have two : ¬ meaning.depth ≤ 2 := by
    rw [← (comes 2).1]
    decide +kernel
  have three : meaning.depth ≤ 3 := by
    rw [← (comes 3).1]
    decide +kernel
  refine ⟨clean, sorted.acyclic member, meaning, unfolds, by omega, ?_⟩
  rw [← ((comes 3).2 three).1]
  decide +kernel

end GrokEvents.Grok
