/-
**What a section is.**

A section starts at the first place where its keyword, white space and an opening brace stand, and
its body goes on to the first place where as many braces are closed as were opened. There is no body
where the keyword opens nothing, and none where the first place that it opens is never closed; a
later place does not count.

* `afterOpening?_eq_some_iff`, `afterOpening?_eq_none_iff`: the first opening of a keyword.
* `body?_eq_some_iff`, `body?_eq_none_iff`: the balanced body behind an opening.
* `section?_eq_some_iff`, `section?_eq_none_iff`: what is found, and when nothing is.
* `section?_exact`: both, and which sections are found inside of a section.
-/

import GrokEvents.Proofs.Filter.Nesting

namespace GrokEvents.Filter

open Text

/-! ### Openings -/

/-- After the first part of a text stand a keyword, white space and an opening brace, and then the
second part. -/
def OpensAt (keyword text before opened : Text) : Prop :=
  ∃ blanks, text = before ++ (keyword ++ (blanks ++ '{' :: opened)) ∧
    ∀ blank ∈ blanks, isBlank blank = true

/-- The keyword opens a section there and at no place before. -/
structure OpensFirst (keyword text before opened : Text) : Prop where
  opens : OpensAt keyword text before opened
  least : ∀ other behind, OpensAt keyword text other behind → before.length ≤ other.length

theorem opensAt_iff {keyword text before opened : Text} : OpensAt keyword text before opened ↔
    ∃ after, text = before ++ after ∧ openingAt? keyword after = some opened := by
  constructor
  · rintro ⟨blanks, split, blank⟩
    exact ⟨_, split, openingAt?_eq_some_iff.mpr ⟨blanks, rfl, blank⟩⟩
  · rintro ⟨after, rfl, answered⟩
    obtain ⟨blanks, rfl, blank⟩ := openingAt?_eq_some_iff.mp answered
    exact ⟨blanks, rfl, blank⟩

/-- What follows the first opening of a keyword. -/
theorem afterOpening?_eq_some_iff {keyword text opened : Text} :
    afterOpening? keyword text = some opened ↔ ∃ before, OpensFirst keyword text before opened := by
  rw [afterOpening?_eq_atFirst?]
  constructor
  · intro found
    obtain ⟨before, after, rfl, passed, answered⟩ := exists_passed_of_atFirst? found
    refine ⟨before, opensAt_iff.mpr ⟨after, rfl, answered⟩, fun other behind opens => ?_⟩
    by_contra shorter
    obtain ⟨rest, split, answered'⟩ := opensAt_iff.mp opens
    -- The other place is inside the part that has no answer.
    obtain ⟨ending, rfl⟩ := List.prefix_of_prefix_length_le (List.prefix_append other rest)
      (split ▸ List.prefix_append before after) (Nat.le_of_not_le shorter)
    rw [List.append_assoc, List.append_cancel_left_eq] at split
    have nonempty : ending ≠ [] := by
      rintro rfl
      simp at shorter
    have unanswered := passed ending (List.suffix_append other ending) nonempty
    rw [split, answered'] at unanswered
    cases unanswered
  · rintro ⟨before, opens, least⟩
    obtain ⟨after, rfl, answered⟩ := opensAt_iff.mp opens
    have passed : Passed (openingAt? keyword) before after := by
      rintro ending ⟨start, rfl⟩ nonempty
      cases here : openingAt? keyword (ending ++ after) with
      | none => rfl
      | some behind =>
        have short := least start behind (opensAt_iff.mpr ⟨_, List.append_assoc .., here⟩)
        have long := List.length_pos_of_ne_nil nonempty
        rw [List.length_append] at short
        omega
    rw [atFirst?_of_passed passed, atFirst?_of_answer answered]

theorem afterOpening?_eq_none_iff {keyword text : Text} :
    afterOpening? keyword text = none ↔ ¬ ∃ before opened, OpensAt keyword text before opened := by
  constructor
  · rintro absent ⟨before, opened, opens⟩
    obtain ⟨after, rfl, answered⟩ := opensAt_iff.mp opens
    have found := atFirst?_isSome_of_answer (Option.isSome_of_eq_some answered) before
    rw [← afterOpening?_eq_atFirst?, absent] at found
    cases found
  · intro absent
    cases found : afterOpening? keyword text with
    | none => rfl
    | some opened =>
      obtain ⟨before, first⟩ := afterOpening?_eq_some_iff.mp found
      exact absurd ⟨before, opened, first.opens⟩ absent

/-! ### Bodies -/

/-- A body is balanced, and the brace that closes it comes next. -/
theorem body?_eq_some_iff {opened body : Text} :
    body? 0 opened = some body ↔ Balanced body ∧ ∃ after, opened = body ++ '}' :: after := by
  constructor
  · intro found
    exact ⟨(balanced_iff body).mpr (depthAfter?_of_body? found), body?_append found⟩
  · rintro ⟨balanced, after, rfl⟩
    exact body?_of_balanced balanced after

/-- Some start of the text closes all braces that are open, so that there is a body. The induction
is on the text: a step that goes on moves the depth by what its character opens and closes. -/
theorem exists_body?_of_start {depth : Nat} {text start : Text} (isStart : start <+: text)
    (closes : start.count '}' = depth + start.count '{' + 1) :
    ∃ body, body? depth text = some body := by
  induction text generalizing depth start with
  | nil =>
    rw [List.prefix_nil.mp isStart] at closes
    simp at closes
  | cons char text ih =>
    rcases List.prefix_cons_iff.mp isStart with rfl | ⟨rest, rfl, isRest⟩
    · simp at closes
    · cases step : braceStep? depth char with
      | none =>
        obtain ⟨rfl, rfl⟩ := braceStep?_eq_none_iff.mp step
        exact ⟨[], by simp [body?]⟩
      | some reached =>
        have moved := braceStep?_eq_some_iff.mp step
        have split (brace : Char) :
            (char :: rest).count brace = [char].count brace + rest.count brace :=
          show ([char] ++ rest).count brace = _ from List.count_append
        rw [split, split] at closes
        obtain ⟨body, inside⟩ := ih isRest (by omega : rest.count '}' = reached + rest.count '{' + 1)
        exact ⟨char :: body, by rw [body?_cons_of_step step, inside]; rfl⟩

/-- There is no body where no start of the text brings the depth back to nothing. -/
theorem body?_eq_none_iff {opened : Text} :
    body? 0 opened = none ↔ ∀ start, start <+: opened → start.count '}' ≠ start.count '{' + 1 := by
  constructor
  · intro absent start isStart closes
    obtain ⟨body, found⟩ := exists_body?_of_start isStart (by omega : _ = 0 + start.count '{' + 1)
    rw [absent] at found
    cases found
  · intro open'
    cases found : body? 0 opened with
    | none => rfl
    | some body =>
      obtain ⟨balanced, after, rfl⟩ := body?_eq_some_iff.mp found
      have whole : body ++ '}' :: after = (body ++ ['}']) ++ after := List.append_cons ..
      refine absurd ?_ (open' (body ++ ['}']) ⟨after, whole.symm⟩)
      rw [List.count_append, List.count_append, balanced.2]
      rfl

/-! ### Sections -/

/-- A section is found with a balanced body behind the first opening of its keyword. -/
theorem section?_eq_some_iff {keyword text body : Text} : section? keyword text = some body ↔
    Balanced body ∧ ∃ before after, OpensFirst keyword text before (body ++ '}' :: after) := by
  rw [section?, Option.bind_eq_some_iff]
  constructor
  · rintro ⟨opened, found, inside⟩
    obtain ⟨balanced, after, rfl⟩ := body?_eq_some_iff.mp inside
    obtain ⟨before, first⟩ := afterOpening?_eq_some_iff.mp found
    exact ⟨balanced, before, after, first⟩
  · rintro ⟨balanced, before, after, first⟩
    exact ⟨_, afterOpening?_eq_some_iff.mpr ⟨before, first⟩, body?_of_balanced balanced after⟩

/-- None is found where the keyword opens nothing, or the first place that it opens is never closed. -/
theorem section?_eq_none_iff {keyword text : Text} : section? keyword text = none ↔
    (¬ ∃ before opened, OpensAt keyword text before opened) ∨
      ∃ before opened, OpensFirst keyword text before opened ∧
        ∀ start, start <+: opened → start.count '}' ≠ start.count '{' + 1 := by
  rw [section?, ← afterOpening?_eq_none_iff]
  cases found : afterOpening? keyword text with
  | none => simp
  | some opened =>
    rw [Option.bind_some, body?_eq_none_iff]
    obtain ⟨before, first⟩ := afterOpening?_eq_some_iff.mp found
    constructor
    · intro open'
      exact .inr ⟨before, opened, first, open'⟩
    · rintro (absent | ⟨other, behind, isFirst, open'⟩)
      · cases absent
      · have same := afterOpening?_eq_some_iff.mpr ⟨other, isFirst⟩
        rw [found] at same
        obtain rfl := Option.some.inj same
        exact open'

/-- **What a section is.** Its body is the balanced text behind the first place where the keyword,
white space and an opening brace stand, up to the closing brace that comes next. Nothing is found
just where there is no such place, or no start of what follows the first one closes its brace.
Inside the body of a section nothing is found just where there is no such place. -/
theorem section?_exact (keyword text : Text) :
    (∀ body, section? keyword text = some body ↔
      Balanced body ∧ ∃ before after, OpensFirst keyword text before (body ++ '}' :: after)) ∧
    (section? keyword text = none ↔
      (¬ ∃ before opened, OpensAt keyword text before opened) ∨
        ∃ before opened, OpensFirst keyword text before opened ∧
          ∀ start, start <+: opened → start.count '}' ≠ start.count '{' + 1) ∧
    ∀ body, section? keyword text = some body → ∀ second, section? second body = none ↔
      ¬ ∃ before opened, OpensAt second body before opened := by
  refine ⟨fun body => section?_eq_some_iff, section?_eq_none_iff, fun body found second => ?_⟩
  have inside := @section?_isSome_iff second body (balanced_of_section? found)
  rw [← afterOpening?_eq_none_iff, ← Option.not_isSome_iff_eq_none, ← Option.not_isSome_iff_eq_none,
    inside]

end GrokEvents.Filter
