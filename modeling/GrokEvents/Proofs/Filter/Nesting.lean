/-
**Sections within sections.**

The body of a section is balanced, so that every brace it opens it closes. A section inside it is
therefore there as soon as its keyword opens one, and a date clause cannot stand in a section that is
left open.

* `balanced_of_section?`: the body of a section is balanced.
* `section?_isSome_iff`: in a balanced text a section is there just where its keyword opens one.
* `date_of_dateClause?`: a balanced filter with a date clause has a section for it.
-/

import GrokEvents.Proofs.Filter.Balance
import GrokEvents.Proofs.Filter.Passing

namespace GrokEvents.Filter

open Text

/-! ### Bodies -/

theorem braceStep?_closing (depth : Nat) : braceStep? (depth + 1) '}' = some depth := by
  simp [braceStep?]

/-- Only the brace that closes the section has no step inside of it. -/
theorem braceStep?_eq_none_iff {depth : Nat} {char : Char} :
    braceStep? depth char = none ↔ depth = 0 ∧ char = '}' := by
  unfold braceStep?
  by_cases opening : char = '{'
  · subst opening
    simp
  · by_cases closing : char = '}' <;> simp [opening, closing]

/-- The body of a section comes back to the depth that it started from. -/
theorem depthAfter?_of_body? {depth : Nat} {text body : Text} (found : body? depth text = some body) :
    depthAfter? depth body = some 0 := by
  induction text generalizing depth body with
  | nil => cases found
  | cons char text ih =>
    -- One step goes on, unless it is the brace that ends the section.
    cases step : braceStep? depth char with
    | some reached =>
      rw [body?_cons_of_step step] at found
      obtain ⟨inner, inside, rfl⟩ := Option.map_eq_some_iff.mp found
      rw [depthAfter?_cons, step, Option.bind_some]
      exact ih inside
    | none =>
      obtain ⟨rfl, rfl⟩ := braceStep?_eq_none_iff.mp step
      obtain rfl : [] = body := by simpa [body?] using found
      rfl

/-- A text that closes all braces that are open, those of a section among them, has the body of the
section at its start. -/
theorem exists_body?_of_depth {around depth : Nat} {text : Text}
    (closes : depthAfter? (around + depth + 1) text = some 0) :
    ∃ body, body? depth text = some body := by
  induction text generalizing depth with
  | nil => cases closes
  | cons char text ih =>
    rw [depthAfter?_cons] at closes
    obtain ⟨reached, step, after⟩ := Option.bind_eq_some_iff.mp closes
    -- The section ends here, or the step that is made outside of it is made inside too.
    have inside : depth = 0 ∧ char = '}' ∨
        ∃ next, braceStep? depth char = some next ∧ reached = around + next + 1 := by
      by_cases opening : char = '{'
      · subst opening
        exact .inr ⟨depth + 1, rfl, (Option.some.inj step).symm⟩
      · by_cases closing : char = '}'
        · subst closing
          rw [braceStep?_closing] at step
          obtain rfl := Option.some.inj step
          cases depth with
          | zero => exact .inl ⟨rfl, rfl⟩
          | succ depth => exact .inr ⟨depth, braceStep?_closing depth, rfl⟩
        · rw [braceStep?_of_other _ opening closing] at step
          exact .inr ⟨depth, braceStep?_of_other _ opening closing, (Option.some.inj step).symm⟩
    rcases inside with ⟨rfl, rfl⟩ | ⟨next, here, rfl⟩
    · exact ⟨[], by simp [body?]⟩
    · obtain ⟨body, found⟩ := ih after
      exact ⟨char :: body, by rw [body?_cons_of_step here, found]; rfl⟩

/-- What a balanced text opens anywhere has the body of a section behind it. -/
theorem exists_body?_of_opening {before after : Text}
    (balanced : Balanced (before ++ '{' :: after)) : ∃ body, body? 0 after = some body := by
  have whole := balanced.depthAfter? 0
  rw [depthAfter?_append] at whole
  obtain ⟨around, -, rest⟩ := Option.bind_eq_some_iff.mp whole
  have closes : depthAfter? (around + 0 + 1) after = some 0 := rest
  exact exists_body?_of_depth closes

/-! ### Sections -/

/-- The body of a section is balanced. -/
theorem balanced_of_section? {keyword text body : Text} (found : section? keyword text = some body) :
    Balanced body := by
  obtain ⟨opened, -, inside⟩ := Option.bind_eq_some_iff.mp found
  exact (balanced_iff body).mpr (depthAfter?_of_body? inside)

/-- What follows the opening of a section stands behind a brace. -/
theorem exists_of_afterOpening? {keyword text opened : Text}
    (found : afterOpening? keyword text = some opened) : ∃ before, text = before ++ '{' :: opened := by
  rw [afterOpening?_eq_atFirst?] at found
  obtain ⟨before, after, rfl, answered⟩ := exists_of_atFirst? found
  obtain ⟨blanks, rfl, -⟩ := openingAt?_eq_some_iff.mp answered
  exact ⟨before ++ keyword ++ blanks, by simp⟩

/-- In a balanced text a section is there just where its keyword opens one. -/
theorem section?_isSome_iff {keyword text : Text} (balanced : Balanced text) :
    (section? keyword text).isSome = true ↔ (afterOpening? keyword text).isSome = true := by
  cases found : afterOpening? keyword text with
  | none => simp [section?, found]
  | some opened =>
    obtain ⟨before, rfl⟩ := exists_of_afterOpening? found
    obtain ⟨body, inside⟩ := exists_body?_of_opening balanced
    simp [section?, found, inside]

/-- A date clause opens a section. -/
theorem openingAt?_of_dateAt? {text : Text} {clause : DateClause}
    (found : dateAt? text = some clause) : (openingAt? "date".toList text).isSome = true := by
  obtain ⟨named, isNamed, afterName⟩ := Option.bind_eq_some_iff.mp found
  obtain ⟨opened, isOpened, -⟩ := Option.bind_eq_some_iff.mp afterName
  have brace : trimStart named = '{' :: opened :=
    (List.append_eq_of_isPrefixOf?_eq_some isOpened).symm
  rw [openingAt?, isNamed, Option.bind_some, afterBrace?, brace]
  rfl

/-- A balanced filter with a date clause has a section for it. -/
theorem date_of_dateClause? {filter : Text} {clause : DateClause} (balanced : Balanced filter)
    (found : dateClause? filter = some clause) :
    (section? "date".toList filter).isSome = true := by
  obtain ⟨before, after, rfl, answered⟩ := exists_of_atFirst? found
  rw [section?_isSome_iff balanced, afterOpening?_eq_atFirst?]
  exact atFirst?_isSome_of_answer (openingAt?_of_dateAt? answered) before

end GrokEvents.Filter
