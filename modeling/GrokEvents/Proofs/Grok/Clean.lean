/-
**Percent-clean texts.**

In a percent-clean text every percent sign starts a token or is followed by something that cannot make
one of it. No token forms across the ends of such a text, so a pass over it can be followed piece by
piece.

* `pieces_append`: the pieces of a clean text are its own, whatever is put behind it.
* `substitute_eq_replaced`: a pass puts other texts in the place of tokens.
* `substitute_of_clean`: the pieces after a pass, and that its text is clean again.
* `isPending_iff_token_or_stuck`: something looks like a token where there is one or where something is
  stuck, which is nowhere in a clean text.
-/

import GrokEvents.Grok.Expansion
import GrokEvents.Proofs.Grok.Token

namespace GrokEvents.Grok

open Text

/-! ### Clean texts -/

/-- Whether a text starts with a percent sign only as it may: at the start of a token, or before a
character that is neither an opening brace nor a percent sign. -/
def startsClean : Text → Bool
  | '%' :: rest =>
    (Token.atStart? ('%' :: rest)).isSome ||
      match rest with
      | char :: _ => char != '{' && char != '%'
      | [] => false
  | _ => true

/-- Every percent sign of the text stands as it may. -/
def PercentClean (text : Text) : Prop :=
  ∀ ending, ending <:+ text → startsClean ending = true

instance (text : Text) : Decidable (PercentClean text) :=
  decidable_of_iff (∀ ending ∈ text.tails, startsClean ending = true) (by simp [PercentClean])

theorem startsClean_of_ne_percent {char : Char} (other : char ≠ '%') (rest : Text) :
    startsClean (char :: rest) = true := by
  unfold startsClean
  split
  · rename_i same
    exact absurd (List.cons.inj same).1 other
  · rfl

/-- A percent sign of a clean text starts a token, or some other character follows it. -/
theorem startsClean_percent {rest : Text} (clean : startsClean ('%' :: rest) = true) :
    (∃ token, Token.atStart? ('%' :: rest) = some token) ∨
      ∃ char after, rest = char :: after ∧ char ≠ '{' ∧ char ≠ '%' := by
  have clean : ((Token.atStart? ('%' :: rest)).isSome || _) = true := clean
  rcases Bool.or_eq_true_iff.mp clean with token | other
  · exact .inl (Option.isSome_iff_exists.mp token)
  · cases rest with
    | nil => cases other
    | cons char after => exact .inr ⟨char, after, rfl, by simpa using other⟩

namespace PercentClean

theorem suffix {text ending : Text} (clean : PercentClean text) (isEnding : ending <:+ text) :
    PercentClean ending :=
  fun shorter isShorter => clean shorter (isShorter.trans isEnding)

theorem nil : PercentClean [] := by
  intro ending isEnding
  rw [List.suffix_nil.mp isEnding]
  rfl

theorem cons {char : Char} {rest : Text} (starts : startsClean (char :: rest) = true)
    (clean : PercentClean rest) : PercentClean (char :: rest) := by
  intro ending isEnding
  rcases List.suffix_cons_iff.mp isEnding with rfl | shorter
  · exact starts
  · exact clean ending shorter

theorem of_no_percent {text : Text} (absent : '%' ∉ text) : PercentClean text := by
  intro ending isEnding
  unfold startsClean
  split
  · exact absurd (isEnding.subset List.mem_cons_self) absent
  · rfl

end PercentClean

theorem startsClean_append {text : Text} (nonempty : text ≠ []) (clean : startsClean text = true)
    (more : Text) : startsClean (text ++ more) = true := by
  cases text with
  | nil => exact absurd rfl nonempty
  | cons char rest =>
    by_cases percent : char = '%'
    · subst percent
      rcases startsClean_percent clean with ⟨token, found⟩ | ⟨next, after, rfl, notBrace, notPercent⟩
      · have found' : Token.atStart? ('%' :: (rest ++ more)) = some token :=
          Token.atStart?_append found more
        show ((Token.atStart? ('%' :: (rest ++ more))).isSome || _) = true
        rw [found']
        rfl
      · simp [startsClean, notBrace, notPercent]
    · exact startsClean_of_ne_percent percent _

theorem PercentClean.append {first second : Text} (one : PercentClean first)
    (two : PercentClean second) : PercentClean (first ++ second) := by
  induction first with
  | nil => exact two
  | cons char rest ih =>
    rw [List.cons_append]
    refine .cons ?_ (ih (one.suffix (List.suffix_cons _ _)))
    exact startsClean_append (List.cons_ne_nil _ _) (one _ List.suffix_rfl) second

/-! ### Pieces of clean texts -/

/-- Text that starts with no token stays so in front of more, if it starts clean. -/
theorem atStart?_append_of_none {char : Char} {rest : Text}
    (clean : startsClean (char :: rest) = true) (plain : Token.atStart? (char :: rest) = none)
    (more : Text) : Token.atStart? (char :: (rest ++ more)) = none := by
  by_cases percent : char = '%'
  · subst percent
    rcases startsClean_percent clean with ⟨token, found⟩ | ⟨next, after, rfl, notBrace, _⟩
    · rw [found] at plain
      cases plain
    · exact Token.atStart?_of_ne_brace notBrace _
  · exact Token.atStart?_of_ne_percent percent _

/-- **No token forms across a seam**: the pieces of a clean text are its own, whatever is put behind
it. -/
theorem pieces_append {text : Text} (clean : PercentClean text) (more : Text) :
    pieces (text ++ more) = pieces text ++ pieces more := by
  induction text using pieces_induction with
  | nil => rfl
  | token token rest wellFormed ih =>
    rw [List.append_assoc, pieces_spell_append wellFormed, pieces_spell_append wellFormed,
      ih (clean.suffix (List.suffix_append _ _)), List.cons_append]
  | literal char rest plain ih =>
    have plain' := atStart?_append_of_none (clean _ List.suffix_rfl) plain more
    rw [List.cons_append, pieces_literal plain', pieces_literal plain,
      ih (clean.suffix (List.suffix_cons _ _)), List.cons_append]

theorem pieces_of_no_percent {text : Text} (absent : '%' ∉ text) :
    pieces text = text.map .literal := by
  induction text with
  | nil => rfl
  | cons char rest ih =>
    have other : char ≠ '%' := fun same => absent (same ▸ List.mem_cons_self)
    rw [pieces_literal (Token.atStart?_of_ne_percent other rest),
      ih fun member => absent (List.mem_cons_of_mem _ member)]
    rfl

/-! ### The place of a token -/

namespace Token

/-- What stands before a fragment in the place of a token. -/
def opening (token : Token) : Text :=
  (token.tag.map fun tag => "(?P<".toList ++ tag.field ++ ['>']).getD []

/-- What stands behind a fragment in the place of a token. -/
def closing (token : Token) : Text :=
  (token.tag.map fun _ => [')']).getD []

/-- What stands in the place of a token, given what stands in the place of its fragment. -/
def wrap (token : Token) (fragment : Text) : Text :=
  token.opening ++ fragment ++ token.closing

theorem replacement_eq (registry : Registry) (token : Token) :
    Piece.replacement registry (.token token) = token.wrap (registry.fragment token.name) := by
  obtain ⟨name, tag⟩ := token
  cases tag with
  | none => exact (List.append_nil _).symm
  | some tag => simp [Piece.replacement, wrap, opening, closing, namedGroup]

theorem not_mem_opening {token : Token} (wellFormed : token.WellFormed) : '%' ∉ token.opening := by
  unfold opening
  cases tagged : token.tag with
  | none => exact List.not_mem_nil
  | some tag =>
    have word : '%' ∉ tag.field := by
      intro member
      have isWord := (wellFormed.tag tag tagged).field_word '%' member
      cases isWord
    simp [word]

theorem not_mem_closing (token : Token) : '%' ∉ token.closing := by
  unfold closing
  cases token.tag with
  | none => exact List.not_mem_nil
  | some tag => exact (by decide : '%' ∉ [')'])

end Token

/-- The pieces that a pass puts in the place of a piece. -/
def Piece.spread (registry : Registry) : Piece → List Piece
  | .literal char => [.literal char]
  | .token reference =>
    reference.opening.map .literal ++ pieces (registry.fragment reference.name) ++
      reference.closing.map .literal

theorem Token.clean_wrap {token : Token} (wellFormed : token.WellFormed) {fragment : Text}
    (clean : PercentClean fragment) : PercentClean (token.wrap fragment) :=
  ((PercentClean.of_no_percent (Token.not_mem_opening wellFormed)).append clean).append
    (.of_no_percent token.not_mem_closing)

theorem pieces_wrap_append {token : Token} (wellFormed : token.WellFormed) {fragment : Text}
    (clean : PercentClean fragment) (more : Text) : pieces (token.wrap fragment ++ more) =
      token.opening.map .literal ++ pieces fragment ++ token.closing.map .literal ++ pieces more := by
  have before := PercentClean.of_no_percent (Token.not_mem_opening wellFormed)
  have behind := PercentClean.of_no_percent token.not_mem_closing
  rw [Token.wrap, pieces_append ((before.append clean).append behind),
    pieces_append (before.append clean),
    pieces_append before, pieces_of_no_percent (Token.not_mem_opening wellFormed),
    pieces_of_no_percent token.not_mem_closing]

/-! ### Other texts in the place of tokens -/

/-- What stands in the place of a piece, given what stands in the place of each token. -/
def Piece.instead (new : Token → Text) : Piece → Text
  | .literal char => [char]
  | .token reference => new reference

/-- A text in which every token has given way to another text. -/
def replaced (new : Token → Text) (text : Text) : Text :=
  (pieces text).flatMap (Piece.instead new)

theorem replaced_spell_append (new : Token → Text) {token : Token} (wellFormed : token.WellFormed)
    (rest : Text) : replaced new (token.spell ++ rest) = new token ++ replaced new rest := by
  rw [replaced, pieces_spell_append wellFormed, List.flatMap_cons]
  rfl

theorem replaced_literal (new : Token → Text) {char : Char} {rest : Text}
    (plain : Token.atStart? (char :: rest) = none) :
    replaced new (char :: rest) = char :: replaced new rest := by
  rw [replaced, pieces_literal plain, List.flatMap_cons]
  rfl

/-- A pass puts other texts in the place of tokens. -/
theorem substitute_eq_replaced (registry : Registry) (text : Text) : substitute registry text =
    replaced (fun token => token.wrap (registry.fragment token.name)) text := by
  refine List.flatMap_congr fun piece _ => ?_
  cases piece with
  | literal char => rfl
  | token token => exact token.replacement_eq registry

theorem substitute_spell_append (registry : Registry) {token : Token}
    (wellFormed : token.WellFormed) (rest : Text) : substitute registry (token.spell ++ rest) =
      token.wrap (registry.fragment token.name) ++ substitute registry rest := by
  rw [substitute_eq_replaced, substitute_eq_replaced, replaced_spell_append _ wellFormed]

theorem substitute_literal (registry : Registry) {char : Char} {rest : Text}
    (plain : Token.atStart? (char :: rest) = none) :
    substitute registry (char :: rest) = char :: substitute registry rest := by
  rw [substitute_eq_replaced, substitute_eq_replaced, replaced_literal _ plain]

/-! ### Passes over clean texts -/

/-- The pieces after a pass over a clean text with clean fragments, and that it is clean again. -/
theorem substitute_of_clean {registry : Registry} {text : Text} (clean : PercentClean text)
    (fragments : ∀ token, .token token ∈ pieces text →
      PercentClean (registry.fragment token.name)) :
    pieces (substitute registry text) = (pieces text).flatMap (Piece.spread registry) ∧
      PercentClean (substitute registry text) := by
  induction text using pieces_induction with
  | nil => exact ⟨rfl, .nil⟩
  | token token rest wellFormed ih =>
    rw [pieces_spell_append wellFormed] at fragments ⊢
    obtain ⟨split, after⟩ := ih (clean.suffix (List.suffix_append _ _))
      fun other member => fragments other (List.mem_cons_of_mem _ member)
    have fragment := fragments token List.mem_cons_self
    rw [substitute_spell_append registry wellFormed]
    refine ⟨?_, (Token.clean_wrap wellFormed fragment).append after⟩
    rw [pieces_wrap_append wellFormed fragment, split, List.flatMap_cons, Piece.spread]
  | literal char rest plain ih =>
    rw [pieces_literal plain] at fragments ⊢
    obtain ⟨split, after⟩ := ih (clean.suffix (List.suffix_cons _ _))
      fun other member => fragments other (List.mem_cons_of_mem _ member)
    rw [substitute_literal registry plain, List.flatMap_cons, ← split]
    show pieces (char :: substitute registry rest) =
      .literal char :: pieces (substitute registry rest) ∧ _
    by_cases percent : char = '%'
    · subst percent
      -- What follows the percent sign belongs to no token, so the pass leaves it there.
      rcases startsClean_percent (clean _ List.suffix_rfl) with
        ⟨token, found⟩ | ⟨next, more, rfl, notBrace, notPercent⟩
      · rw [found] at plain
        cases plain
      · rw [substitute_literal registry (Token.atStart?_of_ne_percent notPercent more)] at after ⊢
        refine ⟨pieces_literal (Token.atStart?_of_ne_brace notBrace _), .cons ?_ after⟩
        simp [startsClean, notBrace, notPercent]
    · refine ⟨pieces_literal (Token.atStart?_of_ne_percent percent _), .cons ?_ after⟩
      exact startsClean_of_ne_percent percent _

/-! ### Pending texts -/

theorem isPending_iff {text : Text} : isPending text = true ↔
    ∃ char rest, '%' :: '{' :: char :: rest <:+ text ∧ isNameChar char = true := by
  fun_induction isPending text with
  | case1 char rest ih =>
    rw [Bool.or_eq_true, ih]
    constructor
    · rintro (name | ⟨next, after, ending, name⟩)
      · exact ⟨char, rest, List.suffix_rfl, name⟩
      · exact ⟨next, after, ending.trans (List.suffix_cons _ _), name⟩
    · rintro ⟨next, after, ending, name⟩
      rcases List.suffix_cons_iff.mp ending with same | shorter
      · obtain ⟨-, -, rfl, -⟩ : '%' = '%' ∧ '{' = '{' ∧ next = char ∧ after = rest := by
          simpa using same
        exact .inl name
      · exact .inr ⟨next, after, shorter, name⟩
  | case2 char rest other ih =>
    rw [ih]
    constructor
    · rintro ⟨next, after, ending, name⟩
      exact ⟨next, after, ending.trans (List.suffix_cons _ _), name⟩
    · rintro ⟨next, after, ending, name⟩
      rcases List.suffix_cons_iff.mp ending with same | shorter
      · obtain ⟨rfl, rfl⟩ := List.cons.inj same
        exact absurd rfl (other next after rfl)
      · exact ⟨next, after, shorter, name⟩
  | case3 =>
    constructor
    · exact nofun
    · rintro ⟨next, after, ending, -⟩
      cases List.suffix_nil.mp ending

/-- Somewhere in the text, what stands there looks like the start of a token and starts none. -/
def Stuck (text : Text) : Prop :=
  ∃ char rest, '%' :: '{' :: char :: rest <:+ text ∧ isNameChar char = true ∧
    Token.atStart? ('%' :: '{' :: char :: rest) = none

/-- Something looks like a token where there is one, and where something is stuck. -/
theorem isPending_iff_token_or_stuck {text : Text} :
    isPending text = true ↔ (∃ token, .token token ∈ pieces text) ∨ Stuck text := by
  rw [isPending_iff]
  constructor
  · rintro ⟨char, rest, ending, name⟩
    cases found : Token.atStart? ('%' :: '{' :: char :: rest) with
    | some token => exact .inl ⟨token, token_mem_of_suffix ending found⟩
    | none => exact .inr ⟨char, rest, ending, name, found⟩
  · rintro (⟨token, member⟩ | ⟨char, rest, ending, name, -⟩)
    · obtain ⟨wellFormed, rest, ending⟩ := exists_suffix_of_token member
      obtain ⟨char, name, split⟩ := List.exists_cons_of_ne_nil wellFormed.name_ne_nil
      rw [Token.spell, split] at ending
      exact ⟨char, _, ending, wellFormed.name_chars char (split ▸ List.mem_cons_self)⟩
    · exact ⟨char, rest, ending, name⟩

/-- Nothing is stuck in a clean text, whatever is put behind it. -/
theorem stuck_append_iff {text : Text} (clean : PercentClean text) (more : Text) :
    Stuck (text ++ more) ↔ Stuck more := by
  induction text with
  | nil => exact Iff.rfl
  | cons first text ih =>
    rw [← ih (clean.suffix (List.suffix_cons _ _)), List.cons_append]
    constructor
    · rintro ⟨char, rest, ending, name, plain⟩
      rcases List.suffix_cons_iff.mp ending with same | shorter
      · have starts := startsClean_append (List.cons_ne_nil _ _) (clean _ List.suffix_rfl) more
        rw [List.cons_append, ← same] at starts
        rcases startsClean_percent starts with ⟨token, found⟩ | ⟨next, after, same, other, -⟩
        · exact absurd (found.symm.trans plain) nofun
        · exact absurd (List.cons.inj same).1.symm other
      · exact ⟨char, rest, shorter, name, plain⟩
    · rintro ⟨char, rest, ending, name, plain⟩
      exact ⟨char, rest, ending.trans (List.suffix_cons _ _), name, plain⟩

/-- In a clean text something looks like a token just where there is one. -/
theorem isPending_iff_of_clean {text : Text} (clean : PercentClean text) :
    isPending text = true ↔ ∃ token, .token token ∈ pieces text := by
  have none : ¬ Stuck text := by
    rw [← List.append_nil text, stuck_append_iff clean]
    rintro ⟨char, rest, ending, -⟩
    cases List.suffix_nil.mp ending
  rw [isPending_iff_token_or_stuck]
  exact or_iff_left none

end GrokEvents.Grok
