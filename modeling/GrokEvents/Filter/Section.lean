/-
**Sections of a configuration.**

A section is a keyword, any white space, and a body between braces. The body ends where the braces
are balanced; braces inside quotes count like any other.

* `body?_append`: the body, its closing brace and what follows are the text.
-/

import GrokEvents.Text.Blank

namespace GrokEvents.Filter

open Text

/-- What follows an opening brace, which may have white space before it. -/
def afterBrace? (text : Text) : Option Text :=
  match trimStart text with
  | '{' :: rest => some rest
  | _ => none

/-- What follows the first place where the keyword and an opening brace stand. -/
def afterOpening? (keyword : Text) : Text → Option Text
  | [] => (keyword.isPrefixOf? []).bind afterBrace?
  | char :: rest =>
    match (keyword.isPrefixOf? (char :: rest)).bind afterBrace? with
    | some body => some body
    | none => afterOpening? keyword rest

/-- The text up to the brace that closes `depth + 1` open ones. -/
def body? : (depth : Nat) → Text → Option Text
  | _, [] => none
  | depth, char :: rest =>
    if char = '{' then (body? (depth + 1) rest).map (char :: ·)
    else if char = '}' then
      match depth with
      | 0 => some []
      | depth + 1 => (body? depth rest).map (char :: ·)
    else (body? depth rest).map (char :: ·)

/-- The body of the first section of a keyword, if its braces balance. -/
def section? (keyword text : Text) : Option Text :=
  (afterOpening? keyword text).bind (body? 0)

theorem body?_append {depth : Nat} {text body : Text} (found : body? depth text = some body) :
    ∃ rest, text = body ++ '}' :: rest := by
  induction text generalizing depth body with
  | nil => simp [body?] at found
  | cons char text ih =>
    have lift {inner : Nat} {found' : Text} (tail : body? inner text = some found') :
        ∃ rest, char :: text = (char :: found') ++ '}' :: rest := by
      obtain ⟨rest, equal⟩ := ih tail
      exact ⟨rest, by simp [equal]⟩
    unfold body? at found
    split at found
    · obtain ⟨inner, tail, rfl⟩ := Option.map_eq_some_iff.mp found
      exact lift tail
    · split at found
      · rename_i closing
        split at found
        · obtain rfl := Option.some.inj found
          exact ⟨text, by simp [closing]⟩
        · obtain ⟨inner, tail, rfl⟩ := Option.map_eq_some_iff.mp found
          exact lift tail
      · obtain ⟨inner, tail, rfl⟩ := Option.map_eq_some_iff.mp found
        exact lift tail

end GrokEvents.Filter
