/-
**Plain sources.**

In a plain source nothing but the tokens means anything to an expression. What it expands to over the
built-in table is then a phrase, so that compiling it can only fail for the names of its groups.

* `namePhrase`: the phrase that a name comes to.
* `words_rowPhrase`: the phrase that a plain source comes to.
* `compile_of_plain`: which plain sources give an expression, and what its groups are.
-/

import GrokEvents.Proofs.Expr.Phrased
import GrokEvents.Proofs.Grok.Table
import GrokEvents.Proofs.Service.Boundary

namespace GrokEvents.Grok

open Text Expr

/-! ### Plain sources -/

/-- The characters that mean something to an expression, and the one that starts a token. -/
def signs : List Char :=
  "\\.^$*+?\x7b\x7d[]|()%".toList

/-- A well-formed token, or a literal that is no sign. -/
def Piece.IsPlain : Piece → Prop
  | .literal char => char ∉ signs
  | .token reference => reference.WellFormed

/-- A text made of well-formed tokens and of literals that are no signs. -/
def IsPlain (source : Text) : Prop :=
  ∃ row : List Piece, (∀ piece ∈ row, piece.IsPlain) ∧ source = row.flatMap Piece.spell

/-- A plain source falls apart into what it is made of. -/
theorem pieces_of_plain {row : List Piece} (plain : ∀ piece ∈ row, piece.IsPlain) :
    pieces (row.flatMap Piece.spell) = row := by
  induction row with
  | nil => rfl
  | cons piece row ih =>
    have rest := ih fun other member => plain other (List.mem_cons_of_mem _ member)
    rw [List.flatMap_cons]
    cases piece with
    | literal char =>
      have other : char ≠ '%' := by
        rintro rfl
        exact plain (.literal '%') List.mem_cons_self (by decide +kernel)
      rw [Piece.spell, List.singleton_append, pieces_literal (Token.atStart?_of_ne_percent other _),
        rest]
    | token token =>
      have wellFormed : token.WellFormed := plain (.token token) List.mem_cons_self
      rw [Piece.spell, pieces_spell_append wellFormed, rest]

/-- The literals of a text. -/
def literalsOf (source : Text) : List Char :=
  (pieces source).filterMap fun
    | .literal char => some char
    | .token _ => none

/-- A text is plain just where none of its literals is a sign. -/
theorem isPlain_iff {source : Text} : IsPlain source ↔ ∀ char ∈ literalsOf source, char ∉ signs := by
  constructor
  · rintro ⟨row, plain, rfl⟩ char member
    rw [literalsOf, pieces_of_plain plain, List.mem_filterMap] at member
    obtain ⟨literal | token, inRow, same⟩ := member
    · exact Option.some.inj same ▸ plain (.literal literal) inRow
    · cases same
  · intro free
    refine ⟨pieces source, fun piece member => ?_, (spell_pieces source).symm⟩
    cases piece with
    | literal char => exact free char (List.mem_filterMap.mpr ⟨_, member, rfl⟩)
    | token token => exact (exists_suffix_of_token member).1

-- The instance goes through the literals and not, as one that is found may, through all characters.
instance (source : Text) : Decidable (IsPlain source) :=
  @decidable_of_iff _ _ isPlain_iff.symm (List.decidableBAll (· ∉ signs) (literalsOf source))

/-! ### The phrase of a source -/

/-- The phrase that a name of the built-in table comes to. -/
def namePhrase (name : Text) : Phrase .row :=
  .ofText (builtinMeaning name).text

/-- A phrase that is well formed, spells what is meant and names the tags on the way. -/
structure Words (phrase : Phrase .row) (meaning : Meaning) : Prop where
  fine : phrase.isFine = true
  text : phrase.text = meaning.text
  names : phrase.names = meaning.tags

theorem words_namePhrase (name : Text) : Words (namePhrase name) (builtinMeaning name) := by
  have all : ∀ fragment ∈ Builtin.spelled.1.map Prod.snd,
      let meaning := (Registry.mk Builtin.spelled.1).unfold 3 (pieces fragment)
      (Phrase.ofText meaning.text).isFine = true ∧ (Phrase.ofText meaning.text).text = meaning.text ∧
        (Phrase.ofText meaning.text).names = meaning.tags := by
    decide +kernel
  have words := all _ (fragment_builtin_mem name)
  rw [← builtin_eq] at words
  exact ⟨words.1, words.2.1, words.2.2⟩

/-- The phrase that a row of pieces comes to. -/
def rowPhrase : List Piece → Phrase .row
  | [] => .empty
  | .literal char :: rest => .unit (.plain char) none (rowPhrase rest)
  | .token ⟨name, none⟩ :: rest => (namePhrase name).append (rowPhrase rest)
  | .token ⟨name, some tag⟩ :: rest =>
    .group (some tag.field) (.only (namePhrase name)) none (rowPhrase rest)

/-- A character that is no sign is not reserved. -/
theorem not_reserved_of_no_sign {char : Char} (noSign : char ∉ signs) : isReserved char = false := by
  cases reserved : isReserved char with
  | false => rfl
  | true =>
    have within : ['(', ')', '[', '|', '*', '+', '?', '{', '\\'] ⊆ signs := by decide
    exact absurd (within (List.contains_iff_mem.mp reserved)) noSign

theorem text_group (name : Text) (body : Phrase .choice) (rest : Phrase .row) :
    (Phrase.group (some name) body none rest).text =
      "(?P<".toList ++ name ++ ['>'] ++ body.text ++ ')' :: rest.text := by
  simp [Phrase.text, Phrase.spell, spellHeader, Count.spellAny, Lexeme.spell, spell_plain]

/-- The phrase of a row of plain pieces spells what the row means and names the tags on the way. -/
theorem words_rowPhrase {row : List Piece} (plain : ∀ piece ∈ row, piece.IsPlain) :
    Words (rowPhrase row) (.ofRow (fun token => builtinMeaning token.name) row) := by
  induction row with
  | nil => exact ⟨rfl, rfl, rfl⟩
  | cons piece row ih =>
    have rest := ih fun other member => plain other (List.mem_cons_of_mem _ member)
    have isPlain := plain piece List.mem_cons_self
    match piece with
    | .literal char =>
      have free := not_reserved_of_no_sign isPlain
      refine ⟨?_, congrArg (char :: ·) rest.text, rest.names⟩
      simp [rowPhrase, Phrase.isFine, Atom.item?, free, Count.fits, rest.fine]
    | .token ⟨name, none⟩ =>
      have words := words_namePhrase name
      refine ⟨?_, ?_, ?_⟩
      · rw [rowPhrase, Phrase.isFine_append, words.fine, rest.fine]
        rfl
      · rw [rowPhrase, Phrase.text_append, words.text, rest.text]
        exact congrArg (· ++ _) (List.append_nil _).symm
      · rw [rowPhrase, Phrase.names_append, words.names, rest.names]
        rfl
    | .token ⟨name, some tag⟩ =>
      have words := words_namePhrase name
      have fine := isPlain.tag tag rfl
      have word : tag.field.all isWordChar = true := List.all_eq_true.mpr fine.field_word
      refine ⟨?_, ?_, ?_⟩
      · simp [rowPhrase, Phrase.isFine, Count.fits, word, fine.field_ne_nil, words.fine, rest.fine]
      · rw [rowPhrase, text_group]
        show _ ++ (namePhrase name).text ++ _ = _
        rw [words.text, rest.text]
        simp [Meaning.ofRow, Token.wrap, Token.opening, Token.closing]
      · rw [rowPhrase, Phrase.names, Phrase.names, words.names, rest.names]
        rfl

/-! ### Names of fields -/

/-- Whether a text starts with a digit. -/
def startsWithDigit (text : Text) : Bool :=
  text.head?.any Char.isDigit

theorem startsIdentifier_of_isDigit {char : Char} (digit : char.isDigit = true) :
    startsIdentifier char = false := by
  simp only [Char.isDigit, Bool.and_eq_true, decide_eq_true_eq, ge_iff_le,
    UInt32.le_iff_toNat_le] at digit
  obtain ⟨-, high⟩ := digit
  have high : char.toNat ≤ 57 := high
  have beyond : ∀ range ∈ identifierStartRanges, 57 < range.1 := by decide +kernel
  have outside : inRanges identifierStartRanges char.toNat = false := by
    rw [← Bool.not_eq_true, inRanges_iff]
    rintro ⟨range, member, low, -⟩
    have := beyond range member
    omega
  have noLetter : char.isAlpha = false := by
    have beneath (bound : UInt32) (above : 57 < bound.toNat) : ¬ bound ≤ char.val := fun low =>
      absurd (high.trans_lt above) (Nat.not_lt.mpr (UInt32.le_iff_toNat_le.mp low))
    refine Bool.eq_false_iff.mpr fun letter => ?_
    rcases Bool.or_eq_true_iff.mp letter with upper | lower
    · exact beneath 65 (by decide) (of_decide_eq_true upper).1
    · exact beneath 97 (by decide) (of_decide_eq_true (Bool.and_eq_true_iff.mp lower).1)
  have noLine : char ≠ '_' := by
    rintro rfl
    exact absurd high (by decide)
  simp [startsIdentifier, outside, noLetter, noLine]

/-- A word is an identifier just where it starts with no digit. -/
theorem isIdentifier_iff_of_word {word : Text} (isWord : word.all isWordChar = true)
    (nonempty : word ≠ []) : isIdentifier word = true ↔ startsWithDigit word = false := by
  cases word with
  | nil => exact absurd rfl nonempty
  | cons char rest =>
    show _ ↔ char.isDigit = false
    cases digit : char.isDigit with
    | false => exact iff_of_true (isIdentifier_of_word digit isWord) rfl
    | true => simp [isIdentifier, startsIdentifier_of_isDigit digit]

/-- The groups of a phrase may have their names just where these are distinct and start with no
digit. -/
theorem nameable_iff {row : Phrase .row} (fine : row.isFine = true) {fields : List Text}
    (same : fields.Perm row.names) : Nameable [] row.names ↔
      fields.Nodup ∧ ∀ field ∈ fields, startsWithDigit field = false := by
  have identifier (name : Text) (member : name ∈ row.names) :
      (isIdentifier name = true ∧ name ∉ List.map Prod.fst ([] : List (Text × Nat))) ↔
        startsWithDigit name = false := by
    obtain ⟨isWord, nonempty⟩ := Phrase.word_of_mem_names fine member
    rw [isIdentifier_iff_of_word isWord nonempty]
    exact and_iff_left List.not_mem_nil
  rw [Nameable, same.nodup_iff]
  refine and_congr_right fun _ => ⟨fun all field member => ?_, fun all name member => ?_⟩
  · have member := same.mem_iff.mp member
    exact (identifier field member).mp (all field member)
  · exact (identifier name member).mpr (all name (same.mem_iff.mpr member))

/-! ### Compiling plain sources -/

/-- The pattern of a row of plain pieces. It has the expression of the phrase where the groups of the
phrase may have their names, and else none. -/
theorem compile_row [Expr.CharacterNames] {passes : Nat} (enough : 3 ≤ passes) (cacheSize : Nat)
    (requests : List Request) {row : List Piece} (plain : ∀ piece ∈ row, piece.IsPlain) :
    ∃ pattern, ((served (.fresh .builtin passes cacheSize) requests).compile
        (row.flatMap Piece.spell)).value.1 = .ok pattern ∧
      pattern.expansion = (expand .builtin passes (row.flatMap Piece.spell)).value ∧
      pattern.expansion.fields.Perm (rowPhrase row).names ∧
      (Nameable [] (rowPhrase row).names → pattern.expression = some (rowPhrase row).expression) ∧
      (¬ Nameable [] (rowPhrase row).names → pattern.expression = none) := by
  have reliable := reliable_served .builtin passes cacheSize requests
  obtain ⟨isText, isFields, -, -⟩ := expand_builtin_meaning enough (row.flatMap Piece.spell)
  have words := words_rowPhrase plain
  have means : sourceMeaning (row.flatMap Piece.spell) =
      .ofRow (fun token => builtinMeaning token.name) row := by
    rw [sourceMeaning, pieces_of_plain plain]
  have spelled :
      (expand .builtin passes (row.flatMap Piece.spell)).value.text = (rowPhrase row).text := by
    rw [isText, means, words.text]
  have named : (expand .builtin passes (row.flatMap Piece.spell)).value.fields.Perm
      (rowPhrase row).names := by
    rw [words.names, ← means]
    exact isFields
  obtain ⟨good, bad⟩ := read_text words.fine
  rw [reliable.compile_value, Pattern.compile_value, spelled, Expr.read_backtracking]
  by_cases nameable : Nameable [] (rowPhrase row).names
  · rw [good nameable]
    exact ⟨_, rfl, rfl, named, fun _ => rfl, fun refused => absurd nameable refused⟩
  · obtain ⟨cause, isCause⟩ := bad nameable
    rw [isCause]
    exact ⟨_, rfl, rfl, named, fun accepted => absurd accepted nameable, fun _ => rfl⟩

/-- **Compiling a plain source** over the built-in table, whatever was compiled before. There is a
pattern, and it has an expression just where the fields are distinct and none starts with a digit. The
groups of the expression are then the named ones, one for each field. -/
theorem compile_of_plain [Expr.CharacterNames] {passes : Nat} (enough : 3 ≤ passes) (cacheSize : Nat)
    (requests : List Request) {source : Text} (plain : IsPlain source) :
    ∃ pattern meaning,
      ((served (.fresh .builtin passes cacheSize) requests).compile source).value.1 = .ok pattern ∧
      Unfolds .builtin (pieces source) meaning ∧ pattern.expansion.fields.Perm meaning.tags ∧
      (pattern.expression.isSome = true ↔ pattern.expansion.fields.Nodup ∧
        ∀ field ∈ pattern.expansion.fields, startsWithDigit field = false) ∧
      ∀ expression, pattern.expression = some expression →
        expression.groupCount = pattern.expansion.fields.length ∧
        (expression.names.map Prod.fst).Perm pattern.expansion.fields := by
  obtain ⟨row, isPlain, rfl⟩ := plain
  obtain ⟨pattern, compiled, expansion, named, good, bad⟩ :=
    compile_row enough cacheSize requests isPlain
  have split := nameable_iff (words_rowPhrase isPlain).fine named
  refine ⟨pattern, sourceMeaning (row.flatMap Piece.spell), compiled, unfolds_sourceMeaning _, ?_,
    ?_, ?_⟩
  · rw [expansion]
    exact (expand_builtin_meaning enough _).2.1
  · rw [← split]
    by_cases nameable : Nameable [] (rowPhrase row).names
    · exact iff_of_true (by rw [good nameable]; rfl) nameable
    · exact iff_of_false (by rw [bad nameable]; exact nofun) nameable
  · intro expression isExpression
    have nameable : Nameable [] (rowPhrase row).names := by
      by_contra refused
      rw [bad refused] at isExpression
      cases isExpression
    rw [good nameable] at isExpression
    obtain rfl := Option.some.inj isExpression
    refine ⟨named.length_eq.symm, ?_⟩
    rw [Phrase.expression, List.zipIdx_map_fst]
    exact named.symm

/-- A source with two fields compiles, and one that has a field twice does not. -/
theorem compile_of_plain_levels :
    (∃ pattern, ((served (.fresh .builtin 3 8) []).compile
        "<%\x7bINT:level\x7d> %\x7bIP:host:ip\x7d %\x7bINT\x7d".toList).value.1 = .ok pattern ∧
      pattern.expression.isSome = true ∧ ∀ expression, pattern.expression = some expression →
        expression.groupCount = 2) ∧
    ∃ pattern, ((served (.fresh .builtin 3 8) []).compile
        "%\x7bINT:level\x7d %\x7bIP:level\x7d".toList).value.1 = .ok pattern ∧
      pattern.expression.isSome = false := by
  constructor
  · obtain ⟨pattern, meaning, compiled, unfolds, same, isSome, groups⟩ := compile_of_plain (le_refl 3)
      8 [] (by decide +kernel : IsPlain "<%\x7bINT:level\x7d> %\x7bIP:host:ip\x7d %\x7bINT\x7d".toList)
    have tags : meaning.tags = ["level".toList, "host".toList] := by
      rw [unfolds.unique (unfolds_sourceMeaning _)]
      decide +kernel
    rw [tags] at same
    refine ⟨pattern, compiled, isSome.mpr ⟨same.nodup_iff.mpr (by decide), ?_⟩, ?_⟩
    · intro field member
      have all : ∀ field ∈ ["level".toList, "host".toList], startsWithDigit field = false := by decide
      exact all field (same.mem_iff.mp member)
    · intro expression isExpression
      rw [(groups expression isExpression).1, same.length_eq]
      rfl
  · obtain ⟨pattern, meaning, compiled, unfolds, same, isSome, -⟩ := compile_of_plain (le_refl 3) 8 []
      (by decide +kernel : IsPlain "%\x7bINT:level\x7d %\x7bIP:level\x7d".toList)
    have tags : meaning.tags = ["level".toList, "level".toList] := by
      rw [unfolds.unique (unfolds_sourceMeaning _)]
      decide +kernel
    rw [tags] at same
    refine ⟨pattern, compiled, Bool.eq_false_iff.mpr fun usable => ?_⟩
    exact absurd (same.nodup_iff.mp (isSome.mp usable).1) (by decide)

end GrokEvents.Grok
