/-
**Tokens as they stand.**

A token is read from a text just where its spelling stands there, whatever follows.

* `Token.atStart?_eq_some_iff`: the token at the start of a text is the well-formed one that is spelled
  there.
* `pieces_spell_append`, `pieces_literal`: the pieces of a text, from its first one.
* `pieces_induction`: induction along the pieces of a text.
* `continuesToken_of_mem_tail`: the characters that a token goes on with.
* `token_mem_pieces_iff`: the tokens among the pieces of a text are those that stand in it.
-/

import Mathlib.Data.List.Infix
import GrokEvents.Grok.Token

namespace GrokEvents.Grok

open Text

/-! ### Well-formed tokens -/

/-- A field of word characters, and perhaps a type of letters. -/
structure Tag.WellFormed (tag : Tag) : Prop where
  field_ne_nil : tag.field ≠ []
  field_word : ∀ char ∈ tag.field, isWordChar char = true
  type_ne_nil : tag.type ≠ some []
  type_alpha : ∀ type, tag.type = some type → ∀ char ∈ type, char.isAlpha = true

/-- A name of name characters, and perhaps a well-formed tag. -/
structure Token.WellFormed (token : Token) : Prop where
  name_ne_nil : token.name ≠ []
  name_chars : ∀ char ∈ token.name, isNameChar char = true
  tag : ∀ tag, token.tag = some tag → tag.WellFormed

namespace Token

theorem tag?_spell {tag : Option Tag} (wellFormed : ∀ found, tag = some found → found.WellFormed)
    (rest : Text) : tag? ((tag.map Tag.spell).getD [] ++ '}' :: rest) = some tag := by
  match tag with
  | none => rfl
  | some ⟨field, none⟩ =>
    have fine := wellFormed _ rfl
    have split : ((some (⟨field, none⟩ : Tag)).map Tag.spell).getD [] ++ '}' :: rest =
        ':' :: (field ++ '}' :: rest) := by
      simp [Tag.spell]
    rw [split, tag?, run_of_stop fine.field_word rfl]
    simp [fine.field_ne_nil]
  | some ⟨field, some type⟩ =>
    have fine := wellFormed _ rfl
    have split : ((some (⟨field, some type⟩ : Tag)).map Tag.spell).getD [] ++ '}' :: rest =
        ':' :: (field ++ ':' :: (type ++ '}' :: rest)) := by
      simp [Tag.spell]
    have typed : type ≠ [] := fun empty => fine.type_ne_nil (congrArg some empty)
    rw [split, tag?, run_of_stop fine.field_word rfl]
    simp [fine.field_ne_nil, run_of_stop (fine.type_alpha type rfl) (rfl : '}'.isAlpha = false), typed]

theorem exists_of_tag? {text : Text} {tag : Option Tag} (found : tag? text = some tag) :
    (∀ other, tag = some other → other.WellFormed) ∧
      ∃ rest, text = (tag.map Tag.spell).getD [] ++ '}' :: rest := by
  unfold tag? at found
  split at found
  · rename_i rest
    obtain rfl := Option.some.inj found
    exact ⟨nofun, rest, rfl⟩
  · rename_i rest
    match taken : run isWordChar rest with
    | (field, after) =>
      obtain ⟨rfl, word⟩ := run_spec taken
      rw [taken] at found
      dsimp only at found
      split at found
      · cases found
      · rename_i nonempty
        have nonempty : field ≠ [] := fun empty => nonempty (by simp [empty])
        split at found
        · rename_i rest
          obtain rfl := Option.some.inj found
          refine ⟨?_, rest, by simp [Tag.spell]⟩
          intro other same
          obtain rfl := Option.some.inj same
          exact ⟨nonempty, word, nofun, nofun⟩
        · rename_i after
          match typed : run Char.isAlpha after with
          | (type, last) =>
            obtain ⟨rfl, alpha⟩ := run_spec typed
            rw [typed] at found
            dsimp only at found
            split at found
            · cases found
            · rename_i someType
              split at found
              · rename_i rest
                obtain rfl := Option.some.inj found
                refine ⟨?_, rest, by simp [Tag.spell]⟩
                intro other same
                obtain rfl := Option.some.inj same
                refine ⟨nonempty, word, ?_, ?_⟩
                · intro empty
                  exact someType (by rw [Option.some.inj empty]; rfl)
                · intro type same
                  obtain rfl := Option.some.inj same
                  exact alpha
              · cases found
        · cases found
  · cases found

/-- What follows a name in a token is no name character. -/
theorem spell_eq (token : Token) (rest : Text) : ∃ stop after, isNameChar stop = false ∧
    (token.tag.map Tag.spell).getD [] ++ '}' :: rest = stop :: after := by
  match token.tag with
  | none => exact ⟨'}', rest, rfl, rfl⟩
  | some tag => exact ⟨':', _, rfl, rfl⟩

theorem atStart?_spell {token : Token} (wellFormed : token.WellFormed) (rest : Text) :
    atStart? (token.spell ++ rest) = some token := by
  obtain ⟨stop, after, stops, split⟩ := token.spell_eq rest
  have whole : token.spell ++ rest = '%' :: '{' :: (token.name ++ stop :: after) := by
    rw [← split]
    simp [spell]
  rw [whole, atStart?, run_of_stop wellFormed.name_chars stops]
  simp only [List.isEmpty_iff, wellFormed.name_ne_nil, if_false]
  rw [← split, tag?_spell wellFormed.tag]
  rfl

/-- The token at the start of a text is the well-formed one that is spelled there. -/
theorem atStart?_eq_some_iff {text : Text} {token : Token} :
    atStart? text = some token ↔ token.WellFormed ∧ ∃ rest, text = token.spell ++ rest := by
  constructor
  · intro found
    unfold atStart? at found
    split at found
    · rename_i rest
      match taken : run isNameChar rest with
      | (name, after) =>
        obtain ⟨rfl, chars⟩ := run_spec taken
        rw [taken] at found
        dsimp only at found
        split at found
        · cases found
        · rename_i nonempty
          obtain ⟨tag, isTag, rfl⟩ := Option.map_eq_some_iff.mp found
          obtain ⟨fine, rest, rfl⟩ := exists_of_tag? isTag
          have nonempty : name ≠ [] := fun empty => nonempty (by simp [empty])
          exact ⟨⟨nonempty, chars, fine⟩, rest, by simp [spell]⟩
    · cases found
  · rintro ⟨wellFormed, rest, rfl⟩
    exact atStart?_spell wellFormed rest

/-- What follows a token does not matter to it. -/
theorem atStart?_append {text : Text} {token : Token} (found : atStart? text = some token)
    (more : Text) : atStart? (text ++ more) = some token := by
  obtain ⟨wellFormed, rest, rfl⟩ := atStart?_eq_some_iff.mp found
  rw [List.append_assoc]
  exact atStart?_spell wellFormed _

theorem atStart?_of_ne_percent {char : Char} (other : char ≠ '%') (rest : Text) :
    atStart? (char :: rest) = none := by
  unfold atStart?
  split
  · rename_i same
    exact absurd (List.cons.inj same).1 other
  · rfl

theorem atStart?_of_ne_brace {char : Char} (other : char ≠ '{') (rest : Text) :
    atStart? ('%' :: char :: rest) = none := by
  unfold atStart?
  split
  · rename_i same
    exact absurd (List.cons.inj (List.cons.inj same).2).1 other
  · rfl

end Token

/-! ### Characters that tokens go on with -/

/-- Whether a token may go on with a character after its percent sign. -/
def continuesToken (char : Char) : Bool :=
  isWordChar char || char == '{' || char == '}' || char == ':'

theorem continuesToken_of_word {char : Char} (word : isWordChar char = true) :
    continuesToken char = true := by
  simp [continuesToken, word]

theorem continuesToken_of_name {char : Char} (name : isNameChar char = true) :
    continuesToken char = true := by
  apply continuesToken_of_word
  have letters : char.isAlpha = (char.isUpper || char.isLower) := rfl
  simp only [isNameChar, isWordChar, Char.isAlphanum, letters, Bool.or_eq_true] at name ⊢
  tauto

theorem continuesToken_of_alpha {char : Char} (alpha : char.isAlpha = true) :
    continuesToken char = true := by
  apply continuesToken_of_word
  simp [isWordChar, Char.isAlphanum, alpha]

/-- A token goes on, after its percent sign, with such characters only. -/
theorem continuesToken_of_mem_tail {token : Token} (wellFormed : token.WellFormed) {char : Char}
    (member : char ∈ token.spell.tail) : continuesToken char = true := by
  have split : token.spell.tail =
      '{' :: (token.name ++ ((token.tag.map Tag.spell).getD [] ++ ['}'])) := by
    simp [Token.spell]
  rw [split, List.mem_cons, List.mem_append, List.mem_append, List.mem_singleton] at member
  rcases member with rfl | inName | inTag | rfl
  · rfl
  · exact continuesToken_of_name (wellFormed.name_chars char inName)
  · cases tagged : token.tag with
    | none =>
      rw [tagged] at inTag
      cases inTag
    | some tag =>
      have fine := wellFormed.tag tag tagged
      rw [tagged, Option.map_some, Option.getD_some, Tag.spell, List.mem_append, List.mem_cons] at inTag
      rcases inTag with (rfl | inField) | inType
      · rfl
      · exact continuesToken_of_word (fine.field_word char inField)
      · cases typed : tag.type with
        | none =>
          rw [typed] at inType
          cases inType
        | some type =>
          rw [typed, Option.map_some, Option.getD_some, List.mem_cons] at inType
          rcases inType with rfl | inType
          · rfl
          · exact continuesToken_of_alpha (fine.type_alpha type typed char inType)
  · rfl

/-- A token starts with the only percent sign in it. -/
theorem not_percent_mem_tail {token : Token} (wellFormed : token.WellFormed) : '%' ∉ token.spell.tail :=
  fun member => nomatch continuesToken_of_mem_tail wellFormed member

/-! ### Pieces from the first one on -/

theorem piecesFrom_length_append (passed rest : Text) :
    piecesFrom passed.length (passed ++ rest) = pieces rest := by
  induction passed with
  | nil => rfl
  | cons char passed ih =>
    rw [List.cons_append, List.length_cons, piecesFrom]
    exact ih

/-- A text that starts with a token has it as its first piece. -/
theorem pieces_spell_append {token : Token} (wellFormed : token.WellFormed) (rest : Text) :
    pieces (token.spell ++ rest) = .token token :: pieces rest := by
  have found := Token.atStart?_spell wellFormed rest
  have split : token.spell ++ rest = '%' :: (token.spell.tail ++ rest) := rfl
  rw [split] at found ⊢
  rw [pieces, piecesFrom, found]
  have short : token.spell.length - 1 = token.spell.tail.length := rfl
  dsimp only
  rw [short, piecesFrom_length_append]

/-- A text that starts with no token has its first character as its first piece. -/
theorem pieces_literal {char : Char} {rest : Text} (plain : Token.atStart? (char :: rest) = none) :
    pieces (char :: rest) = .literal char :: pieces rest := by
  rw [pieces, piecesFrom, plain]
  rfl

/-- Induction along the pieces of a text. -/
@[elab_as_elim]
theorem pieces_induction {motive : Text → Prop} (nil : motive [])
    (token : ∀ (token : Token) (rest : Text), token.WellFormed → motive rest →
      motive (token.spell ++ rest))
    (literal : ∀ (char : Char) (rest : Text), Token.atStart? (char :: rest) = none → motive rest →
      motive (char :: rest)) (text : Text) : motive text := by
  induction length : text.length using Nat.strong_induction_on generalizing text with
  | _ size ih =>
    cases text with
    | nil => exact nil
    | cons char rest =>
      cases found : Token.atStart? (char :: rest) with
      | none =>
        apply literal char rest found
        exact ih rest.length (by rw [← length, List.length_cons]; omega) rest rfl
      | some reference =>
        obtain ⟨wellFormed, after, split⟩ := Token.atStart?_eq_some_iff.mp found
        rw [split]
        apply token reference after wellFormed
        have sizes := congrArg List.length split
        have spelled : 0 < reference.spell.length := List.length_pos_of_ne_nil (List.cons_ne_nil _ _)
        rw [List.length_append] at sizes
        exact ih after.length (by omega) after rfl

/-- A token among the pieces of a text is spelled somewhere in it. -/
theorem exists_suffix_of_token {text : Text} {token : Token} (member : .token token ∈ pieces text) :
    token.WellFormed ∧ ∃ rest, token.spell ++ rest <:+ text := by
  induction text using pieces_induction with
  | nil => cases member
  | token first rest wellFormed ih =>
    rw [pieces_spell_append wellFormed] at member
    rcases List.mem_cons.mp member with same | member
    · obtain rfl := Piece.token.inj same
      exact ⟨wellFormed, rest, List.suffix_rfl⟩
    · obtain ⟨fine, after, ending⟩ := ih member
      exact ⟨fine, after, ending.trans (List.suffix_append _ _)⟩
  | literal char rest plain ih =>
    rw [pieces_literal plain] at member
    rcases List.mem_cons.mp member with same | member
    · cases same
    · obtain ⟨fine, after, ending⟩ := ih member
      exact ⟨fine, after, ending.trans (List.suffix_cons _ _)⟩

/-- An ending that starts with a character is not started within a text that does not have the
character. -/
theorem suffix_of_suffix_append {first : Char} {passed rest after : Text} (absent : first ∉ passed)
    (isEnding : first :: after <:+ passed ++ rest) : first :: after <:+ rest := by
  induction passed with
  | nil => exact isEnding
  | cons char passed ih =>
    obtain ⟨other, absent⟩ := List.ne_and_not_mem_of_not_mem_cons absent
    rcases List.suffix_cons_iff.mp isEnding with same | shorter
    · exact absurd (List.cons.inj same).1 other
    · exact ih absent shorter

/-- A token is among the pieces of a text wherever an ending of the text starts with it: no token stands
across another one. -/
theorem token_mem_of_suffix {text ending : Text} {token : Token} (isEnding : ending <:+ text)
    (found : Token.atStart? ending = some token) : .token token ∈ pieces text := by
  induction text using pieces_induction with
  | nil =>
    rw [List.suffix_nil.mp isEnding] at found
    cases found
  | token first rest wellFormed ih =>
    rw [pieces_spell_append wellFormed]
    obtain ⟨-, after, rfl⟩ := Token.atStart?_eq_some_iff.mp found
    have split : first.spell ++ rest = '%' :: (first.spell.tail ++ rest) := rfl
    rw [split] at isEnding
    rcases List.suffix_cons_iff.mp isEnding with same | shorter
    · have here := Token.atStart?_spell wellFormed rest
      rw [split, ← same, found] at here
      rw [Option.some.inj here]
      exact List.mem_cons_self
    · have shorter := suffix_of_suffix_append (not_percent_mem_tail wellFormed) shorter
      exact List.mem_cons_of_mem _ (ih shorter)
  | literal char rest plain ih =>
    rw [pieces_literal plain]
    rcases List.suffix_cons_iff.mp isEnding with rfl | shorter
    · rw [found] at plain
      cases plain
    · exact List.mem_cons_of_mem _ (ih shorter)

/-- The tokens among the pieces of a text are the well-formed ones that stand in it. -/
theorem token_mem_pieces_iff {text : Text} {token : Token} :
    .token token ∈ pieces text ↔ token.WellFormed ∧ token.spell <:+: text := by
  constructor
  · intro member
    obtain ⟨wellFormed, rest, ending⟩ := exists_suffix_of_token member
    exact ⟨wellFormed, (List.prefix_append _ rest).isInfix.trans ending.isInfix⟩
  · rintro ⟨wellFormed, before, rest, rfl⟩
    have ending : token.spell ++ rest <:+ before ++ token.spell ++ rest :=
      ⟨before, (List.append_assoc _ _ _).symm⟩
    exact token_mem_of_suffix ending (Token.atStart?_spell wellFormed rest)

end GrokEvents.Grok
