/-
**Other texts in the place of tokens.**

The tokens of a text give way to other texts, and the characters between them stay. Where every new text
starts with a character that no token goes on with, what is left of a text keeps its shape: no token is
completed by what stands in the place of another one.

* `prefix_replaced_iff`: a run of characters that no new text starts with is neither made nor broken.
* `pieces_replaced`: the pieces are those of the new texts and the characters between them.
* `stuck_replaced_iff`: what looks like a token and is none is neither made nor mended.
-/

import GrokEvents.Proofs.Grok.Clean

namespace GrokEvents.Grok

open Text

variable {new : Token → Text}

/-! ### Runs of characters -/

/-- Neither a token nor what stands in its place starts with a character that passes a test. -/
structure Breaks (test : Char → Bool) (new : Token → Text) : Prop where
  percent : test '%' = false
  starts : ∀ token, ∃ char rest, new token = char :: rest ∧ test char = false

/-- A run of characters is neither made nor broken by what never starts with one of them. -/
theorem prefix_replaced_iff {test : Char → Bool} (breaks : Breaks test new) {part : Text}
    (passes : ∀ char ∈ part, test char = true) (text : Text) :
    part <+: replaced new text ↔ part <+: text := by
  induction text using pieces_induction generalizing part with
  | nil => exact Iff.rfl
  | token token rest wellFormed ih =>
    cases part with
    | nil => exact iff_of_true List.nil_prefix List.nil_prefix
    | cons char part =>
      have passes := passes char List.mem_cons_self
      obtain ⟨first, more, split, fails⟩ := breaks.starts token
      rw [replaced_spell_append new wellFormed]
      refine iff_of_false ?_ ?_
      · rw [split, List.cons_append, List.cons_prefix_cons]
        rintro ⟨rfl, -⟩
        rw [fails] at passes
        cases passes
      · rw [Token.spell, List.cons_append, List.cons_append, List.cons_append, List.cons_append,
          List.cons_prefix_cons]
        rintro ⟨rfl, -⟩
        rw [breaks.percent] at passes
        cases passes
  | literal char rest plain ih =>
    rw [replaced_literal new plain]
    cases part with
    | nil => exact iff_of_true List.nil_prefix List.nil_prefix
    | cons first part =>
      rw [List.cons_prefix_cons, List.cons_prefix_cons,
        ih fun other member => passes other (List.mem_cons_of_mem _ member)]

/-! ### Passes -/

/-- What a pass puts in the place of a token starts with a parenthesis or as the fragment does. -/
theorem breaks_wrap {registry : Registry} {test : Char → Bool} (percent : test '%' = false)
    (opens : test '(' = false)
    (fragments : ∀ name, ∃ char rest, registry.fragment name = char :: rest ∧ test char = false) :
    Breaks test fun token => token.wrap (registry.fragment token.name) := by
  refine ⟨percent, fun token => ?_⟩
  obtain ⟨char, rest, starts, fails⟩ := fragments token.name
  cases tagged : token.tag with
  | none => exact ⟨char, rest, by simp [Token.wrap, Token.opening, Token.closing, tagged, starts],
    fails⟩
  | some tag =>
    refine ⟨'(', ['?', 'P', '<'] ++ tag.field ++ ['>'] ++ registry.fragment token.name ++ [')'], ?_,
      opens⟩
    simp [Token.wrap, Token.opening, Token.closing, tagged]

/-! ### What looks like a token and is none -/

/-- What is stuck in front of a text that starts no token there is stuck at its start or behind it. -/
theorem stuck_cons_iff {char : Char} {rest : Text} (plain : Token.atStart? (char :: rest) = none) :
    Stuck (char :: rest) ↔
      (char = '%' ∧ ∃ name, isNameChar name = true ∧ ['{', name] <+: rest) ∨ Stuck rest := by
  constructor
  · rintro ⟨name, after, ending, isName, isPlain⟩
    rcases List.suffix_cons_iff.mp ending with same | shorter
    · obtain ⟨rfl, rfl⟩ := List.cons.inj same
      exact .inl ⟨rfl, name, isName, after, rfl⟩
    · exact .inr ⟨name, after, shorter, isName, isPlain⟩
  · rintro (⟨rfl, name, isName, after, rfl⟩ | ⟨name, after, ending, isName, isPlain⟩)
    · exact ⟨name, after, List.suffix_rfl, isName, plain⟩
    · exact ⟨name, after, ending.trans (List.suffix_cons _ _), isName, isPlain⟩

theorem Token.clean_spell {token : Token} (wellFormed : token.WellFormed) :
    PercentClean token.spell := by
  have found := Token.atStart?_spell wellFormed []
  rw [List.append_nil] at found
  have starts : startsClean token.spell = true := by
    show ((Token.atStart? token.spell).isSome || _) = true
    rw [found]
    rfl
  exact PercentClean.cons starts (.of_no_percent (not_percent_mem_tail wellFormed))

/-! ### Pieces -/

section Pieces

variable (breaks : Breaks continuesToken new)

include breaks

/-- A character that starts no token starts none before other texts either. -/
theorem atStart?_replaced {char : Char} {rest : Text} (plain : Token.atStart? (char :: rest) = none) :
    Token.atStart? (char :: replaced new rest) = none := by
  by_contra starts
  obtain ⟨token, found⟩ := Option.ne_none_iff_exists'.mp starts
  obtain ⟨wellFormed, after, split⟩ := Token.atStart?_eq_some_iff.mp found
  obtain ⟨rfl, behind⟩ : char = '%' ∧ replaced new rest = token.spell.tail ++ after :=
    List.cons.inj split
  have before : token.spell.tail <+: replaced new rest := ⟨after, behind.symm⟩
  rw [prefix_replaced_iff breaks fun _ => continuesToken_of_mem_tail wellFormed] at before
  obtain ⟨after, rfl⟩ := before
  have found : Token.atStart? (token.spell ++ after) = some token :=
    Token.atStart?_spell wellFormed after
  exact absurd (found.symm.trans plain) nofun

variable (clean : ∀ token, token.WellFormed → PercentClean (new token))

include clean

/-- **The pieces where tokens have given way to other texts.** -/
theorem pieces_replaced (text : Text) : pieces (replaced new text) = (pieces text).flatMap fun
    | .literal char => [.literal char]
    | .token token => pieces (new token) := by
  induction text using pieces_induction with
  | nil => rfl
  | token token rest wellFormed ih =>
    rw [replaced_spell_append new wellFormed, pieces_append (clean token wellFormed), ih,
      pieces_spell_append wellFormed, List.flatMap_cons]
  | literal char rest plain ih =>
    rw [replaced_literal new plain, pieces_literal (atStart?_replaced breaks plain), ih,
      pieces_literal plain, List.flatMap_cons]
    rfl

/-- **What looks like a token and is none** is neither made nor mended. -/
theorem stuck_replaced_iff (text : Text) : Stuck (replaced new text) ↔ Stuck text := by
  induction text using pieces_induction with
  | nil => exact Iff.rfl
  | token token rest wellFormed ih =>
    rw [replaced_spell_append new wellFormed, stuck_append_iff (clean token wellFormed),
      stuck_append_iff (Token.clean_spell wellFormed), ih]
  | literal char rest plain ih =>
    rw [replaced_literal new plain, stuck_cons_iff (atStart?_replaced breaks plain),
      stuck_cons_iff plain, ih]
    have same (name : Char) (isName : isNameChar name = true) :
        ['{', name] <+: replaced new rest ↔ ['{', name] <+: rest := by
      apply prefix_replaced_iff breaks
      intro char member
      rcases List.mem_cons.mp member with rfl | member
      · rfl
      · rw [List.mem_singleton.mp member]
        exact continuesToken_of_name isName
    refine or_congr_left (and_congr_right fun _ => exists_congr fun name => ?_)
    exact and_congr_right (same name)

end Pieces

end GrokEvents.Grok
