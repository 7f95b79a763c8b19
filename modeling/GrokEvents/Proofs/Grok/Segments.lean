/-
**A text and its tokens.**

A text is written in one way as a row of tokens and the literal stretches between them, the
stretches being as long as they can be and without tokens. No token overlaps another one, so it does
not matter how the text is gone through, and a pass over a text is a pass over its parts wherever no
token stands across the cut.

* `writes_iff`: the one row of segments that a text is written as.
* `standsAt_apart`: tokens in a text stand apart.
* `pieces_append_of_seam`: cutting a text where no token stands across.
* `pass_of_writes`, `pass_append_of_seam`: what a pass makes of the segments of a text, and of its
  parts.
* `token_language`: all of this, with what the expression of a token matches.
-/

import Mathlib.Data.List.Chain
import GrokEvents.Proofs.Grok.Passes
import GrokEvents.Proofs.Grok.Recognition

namespace GrokEvents.Grok

open Text Expr

/-! ### Tokens at a place -/

/-- A well-formed token is spelled from a place of a text on. -/
structure StandsAt (token : Token) (place : Nat) (text : Text) : Prop where
  wellFormed : token.WellFormed
  spelled : token.spell <+: text.drop place

theorem standsAt_iff {token : Token} {place : Nat} {text : Text} :
    StandsAt token place text ↔ Token.atStart? (text.drop place) = some token := by
  rw [Token.atStart?_eq_some_iff]
  constructor
  · rintro ⟨wellFormed, after, same⟩
    exact ⟨wellFormed, after, same.symm⟩
  · rintro ⟨wellFormed, after, same⟩
    exact ⟨wellFormed, after, same.symm⟩

/-- **Tokens in a text stand apart**: the one that starts first ends before the other one starts. -/
theorem standsAt_apart {first second : Token} {one two : Nat} {text : Text}
    (here : StandsAt first one text) (there : StandsAt second two text) (ordered : one ≤ two) :
    (one = two ∧ first = second) ∨ one + first.spell.length ≤ two := by
  rcases ordered.eq_or_lt with rfl | before
  · have same := (standsAt_iff.mp here).symm.trans (standsAt_iff.mp there)
    exact .inl ⟨rfl, Option.some.inj same⟩
  · refine .inr (Nat.not_lt.mp fun within => not_percent_mem_tail here.wellFormed ?_)
    -- The percent sign of the second token would be a later character of the first one.
    have percent : text[two]? = some '%' := by
      obtain ⟨after, same⟩ := there.spelled
      rw [← Nat.add_zero two, ← List.getElem?_drop, ← same]
      rfl
    have inFirst : first.spell[two - one]? = some '%' := by
      obtain ⟨after, same⟩ := here.spelled
      rw [← percent, ← Nat.add_sub_cancel' ordered, ← List.getElem?_drop, ← same,
        List.getElem?_append_left (by omega), Nat.add_sub_cancel_left]
    refine List.mem_of_getElem? (i := two - one - 1) ?_
    rw [List.getElem?_tail, Nat.sub_add_cancel (by omega)]
    exact inFirst

/-! ### Seams -/

/-- A token stands across the seam of two texts: it begins in the first and ends in the second. -/
def Straddles (token : Token) (first second : Text) : Prop :=
  ∃ left right, left ≠ [] ∧ right ≠ [] ∧ token.spell = left ++ right ∧ left <:+ first ∧ right <+: second

/-- No well-formed token stands across the seam of two texts. -/
def Seam (first second : Text) : Prop :=
  ∀ token : Token, token.WellFormed → ¬ Straddles token first second

theorem Seam.of_suffix {first ending second : Text} (seam : Seam first second)
    (isEnding : ending <:+ first) : Seam ending second := by
  rintro token wellFormed ⟨left, right, some, more, split, inFirst, inSecond⟩
  exact seam token wellFormed ⟨left, right, some, more, split, inFirst.trans isEnding, inSecond⟩

/-- Nothing stands across behind a character that is in no token. -/
theorem seam_of_stop {stop : Char} (stops : continuesToken stop = false) (other : stop ≠ '%')
    (before second : Text) : Seam (before ++ [stop]) second := by
  rintro token wellFormed ⟨left, right, some, -, split, inFirst, -⟩
  rcases List.suffix_concat_iff.mp inFirst with rfl | ⟨left, rfl, -⟩
  · exact some rfl
  have member : stop ∈ token.spell := by
    rw [split]
    simp
  rcases List.mem_cons.mp member with rfl | inTail
  · exact other rfl
  · rw [continuesToken_of_mem_tail wellFormed inTail] at stops
    cases stops

/-- Nothing stands across in front of a percent sign. -/
theorem seam_of_percent (first rest : Text) : Seam first ('%' :: rest) := by
  rintro token wellFormed ⟨left, right, some, more, split, -, inSecond⟩
  obtain ⟨char, left, rfl⟩ := List.exists_cons_of_ne_nil some
  obtain ⟨next, right, rfl⟩ := List.exists_cons_of_ne_nil more
  obtain ⟨rfl, -⟩ := List.cons_prefix_cons.mp inSecond
  refine not_percent_mem_tail wellFormed ?_
  rw [split]
  simp

/-- **Where no token stands across, the pieces of a text are those of its two parts.** -/
theorem pieces_append_of_seam {first second : Text} (seam : Seam first second) :
    pieces (first ++ second) = pieces first ++ pieces second := by
  induction first using pieces_induction with
  | nil => rfl
  | token token rest wellFormed ih =>
    rw [List.append_assoc, pieces_spell_append wellFormed, pieces_spell_append wellFormed,
      ih (seam.of_suffix (List.suffix_append _ _)), List.cons_append]
  | literal char rest plain ih =>
    have plain' : Token.atStart? (char :: (rest ++ second)) = none := by
      rw [Option.eq_none_iff_forall_ne_some]
      intro token found
      obtain ⟨wellFormed, after, split⟩ := Token.atStart?_eq_some_iff.mp found
      rw [← List.cons_append] at split
      rcases List.append_eq_append_iff.mp split with ⟨right, spelled, isSecond⟩ | ⟨left, spelled, -⟩
      · by_cases none : right = []
        · rw [none, List.append_nil] at spelled
          rw [← spelled, ← List.append_nil token.spell, Token.atStart?_spell wellFormed] at plain
          cases plain
        · refine seam token wellFormed ⟨char :: rest, right, List.cons_ne_nil _ _, none, spelled,
            List.suffix_rfl, ?_⟩
          exact ⟨after, isSecond.symm⟩
      · rw [spelled, Token.atStart?_spell wellFormed] at plain
        cases plain
    rw [List.cons_append, pieces_literal plain', pieces_literal plain,
      ih (seam.of_suffix (List.suffix_cons _ _)), List.cons_append]

/-! ### Segments -/

/-- A token of a text, or a stretch of it between two tokens. -/
inductive Segment where
  | literal (text : Text)
  | token (reference : Token)
deriving DecidableEq, Repr

namespace Segment

/-- The characters of a segment. -/
def spell : Segment → Text
  | .literal text => text
  | .token reference => reference.spell

def pieces : Segment → List Piece
  | .literal text => text.map .literal
  | .token reference => [.token reference]

/-- What a pass puts in the place of a segment: literal stretches stay as they are. -/
def replacement (registry : Registry) : Segment → Text
  | .literal text => text
  | .token reference => Piece.replacement registry (.token reference)

/-- What is found at a token. -/
def atToken? {Found : Type} (found : Piece → Option Found) : Segment → Option Found
  | .literal _ => none
  | .token reference => found (.token reference)

/-- The field that a segment declares. -/
def field? : Segment → Option Text :=
  atToken? Piece.field?

/-- The type that a segment gives to its field. -/
def type? : Segment → Option (Text × Text) :=
  atToken? Piece.type?

def isLiteral : Segment → Bool
  | .literal _ => true
  | .token _ => false

/-- A stretch that is not empty and in which no well-formed token stands, or a well-formed token. -/
def Sound : Segment → Prop
  | .literal text => text ≠ [] ∧ ∀ token : Token, token.WellFormed → ¬ token.spell <:+: text
  | .token reference => reference.WellFormed

end Segment

/-- A row of segments that a text is written as. Stretches are as long as they can be: no two of
them are neighbours. -/
structure Writes (row : List Segment) (text : Text) : Prop where
  spelled : row.flatMap Segment.spell = text
  sound : ∀ segment ∈ row, segment.Sound
  maximal : row.IsChain fun one two => one.isLiteral = true → two.isLiteral = false

/-- Puts a character in front of a row of segments. -/
def prepend (char : Char) : List Segment → List Segment
  | .literal text :: row => .literal (char :: text) :: row
  | row => .literal [char] :: row

/-- Puts pieces together to segments. -/
def glue : List Piece → List Segment
  | [] => []
  | .token reference :: rest => .token reference :: glue rest
  | .literal char :: rest => prepend char (glue rest)

/-- The segments of a text. -/
def segments (text : Text) : List Segment :=
  glue (pieces text)

/-! ### The segments of a text -/

/-- A stretch is put together in front of what starts with no stretch. -/
theorem glue_literal_append {text : Text} (nonempty : text ≠ []) {rest : List Piece}
    (apart : ∀ first, (glue rest).head? = some first → first.isLiteral = false) :
    glue (text.map .literal ++ rest) = .literal text :: glue rest := by
  induction text with
  | nil => exact absurd rfl nonempty
  | cons char text ih =>
    rw [List.map_cons, List.cons_append, glue]
    cases text with
    | nil =>
      rw [List.map_nil, List.nil_append]
      match found : glue rest with
      | [] => rfl
      | .token reference :: row => rfl
      | .literal other :: row =>
        rw [found] at apart
        exact nomatch apart _ rfl
    | cons next text =>
      rw [ih (List.cons_ne_nil _ _)]
      rfl

theorem glue_flatMap_pieces {row : List Segment} (sound : ∀ segment ∈ row, segment.Sound)
    (maximal : row.IsChain fun one two => one.isLiteral = true → two.isLiteral = false) :
    glue (row.flatMap Segment.pieces) = row := by
  induction row with
  | nil => rfl
  | cons segment row ih =>
    obtain ⟨here, others⟩ := List.forall_mem_cons.mp sound
    obtain ⟨apart, maximal⟩ := List.isChain_cons.mp maximal
    have ih := ih others maximal
    rw [List.flatMap_cons]
    cases segment with
    | token reference => exact congrArg _ ih
    | literal text =>
      rw [Segment.pieces, glue_literal_append here.1, ih]
      intro first isFirst
      rw [ih] at isFirst
      exact apart first isFirst rfl

/-- A text in which no token stands has its characters as its pieces. -/
theorem pieces_of_no_token {text : Text}
    (none : ∀ token : Token, token.WellFormed → ¬ token.spell <:+: text) :
    pieces text = text.map .literal := by
  induction text using pieces_induction with
  | nil => rfl
  | token token rest wellFormed ih =>
    exact absurd (List.prefix_append _ _).isInfix (none token wellFormed)
  | literal char rest plain ih =>
    rw [pieces_literal plain, ih fun token wellFormed stands =>
      none token wellFormed (stands.trans (List.suffix_cons _ _).isInfix), List.map_cons]

theorem pieces_of_sound {segment : Segment} (sound : segment.Sound) :
    pieces segment.spell = segment.pieces := by
  cases segment with
  | literal text => exact pieces_of_no_token sound.2
  | token reference =>
    have whole := pieces_spell_append sound []
    rw [List.append_nil] at whole
    exact whole

/-- **The pieces of a text are those of its segments.** Behind a stretch there is nothing or a
token, and behind a token anything may stand. -/
theorem Writes.pieces_eq {row : List Segment} {text : Text} (writes : Writes row text) :
    pieces text = row.flatMap Segment.pieces := by
  obtain ⟨rfl, sound, maximal⟩ := writes
  induction row with
  | nil => rfl
  | cons segment row ih =>
    obtain ⟨here, others⟩ := List.forall_mem_cons.mp sound
    obtain ⟨apart, maximal⟩ := List.isChain_cons.mp maximal
    rw [List.flatMap_cons, List.flatMap_cons, ← ih others maximal]
    cases segment with
    | token reference => exact pieces_spell_append here _
    | literal stretch =>
      rw [← pieces_of_sound here]
      cases row with
      | nil =>
        rw [List.flatMap_nil, List.append_nil]
        exact (List.append_nil _).symm
      | cons next row =>
        cases next with
        | literal text => cases apart _ rfl rfl
        | token reference => exact pieces_append_of_seam (seam_of_percent _ _)

/-- A stretch that a character is put in front of still has no token in it, if none starts at the
character. -/
theorem not_infix_cons {char : Char} {text rest : Text} {token : Token}
    (plain : Token.atStart? (char :: (text ++ rest)) = none) (wellFormed : token.WellFormed)
    (none : ¬ token.spell <:+: text) : ¬ token.spell <:+: char :: text := by
  intro stands
  rcases List.infix_cons_iff.mp stands with ⟨after, same⟩ | inside
  · rw [← List.cons_append, ← same, List.append_assoc, Token.atStart?_spell wellFormed] at plain
    cases plain
  · exact none inside

/-- A character that starts no token goes to the stretch behind it, or is one of its own. -/
theorem Writes.prepend {char : Char} {rest : Text} {row : List Segment} (writes : Writes row rest)
    (plain : Token.atStart? (char :: rest) = none) : Writes (prepend char row) (char :: rest) := by
  obtain ⟨rfl, sound, maximal⟩ := writes
  have alone : (Segment.literal [char]).Sound := by
    have starts : Token.atStart? (char :: ([] ++ row.flatMap Segment.spell)) = none := plain
    refine ⟨List.cons_ne_nil _ _,
      fun token wellFormed => not_infix_cons starts wellFormed fun stands => ?_⟩
    exact List.cons_ne_nil _ _ (List.infix_nil.mp stands)
  match row with
  | [] => exact ⟨rfl, List.forall_mem_singleton.mpr alone, .singleton _⟩
  | .token reference :: row =>
    exact ⟨rfl, List.forall_mem_cons.mpr ⟨alone, sound⟩,
      List.isChain_cons.mpr ⟨fun next isNext _ => Option.some.inj isNext ▸ rfl, maximal⟩⟩
  | .literal text :: row =>
    obtain ⟨⟨-, none⟩, others⟩ := List.forall_mem_cons.mp sound
    refine ⟨rfl, List.forall_mem_cons.mpr ⟨⟨List.cons_ne_nil _ _, ?_⟩, others⟩,
      List.isChain_cons.mpr (List.isChain_cons.mp maximal)⟩
    exact fun token wellFormed => not_infix_cons plain wellFormed (none token wellFormed)

/-- **A text is written as its segments.** -/
theorem writes_segments (text : Text) : Writes (segments text) text := by
  induction text using pieces_induction with
  | nil => exact ⟨rfl, nofun, .nil⟩
  | token token rest wellFormed ih =>
    have split : segments (token.spell ++ rest) = .token token :: segments rest := by
      rw [segments, pieces_spell_append wellFormed]
      rfl
    rw [split]
    refine ⟨?_, List.forall_mem_cons.mpr ⟨wellFormed, ih.sound⟩,
      List.isChain_cons.mpr ⟨nofun, ih.maximal⟩⟩
    rw [List.flatMap_cons, ih.spelled]
    rfl
  | literal char rest plain ih =>
    have split : segments (char :: rest) = prepend char (segments rest) := by
      rw [segments, pieces_literal plain]
      rfl
    rw [split]
    exact ih.prepend plain

/-- **There is one row of segments that a text is written as.** -/
theorem writes_iff {row : List Segment} {text : Text} : Writes row text ↔ row = segments text := by
  constructor
  · intro writes
    rw [segments, writes.pieces_eq, glue_flatMap_pieces writes.sound writes.maximal]
  · rintro rfl
    exact writes_segments text

/-! ### Passes -/

section Passes

variable (registry : Registry) (fields : List Text) (types : Entries Text Text)

theorem flatMap_replacement_pieces (segment : Segment) :
    segment.pieces.flatMap (Piece.replacement registry) = segment.replacement registry := by
  cases segment with
  | literal text =>
    rw [Segment.pieces, List.flatMap_map]
    exact List.flatMap_singleton' text
  | token reference => exact List.flatMap_singleton _ _

/-- What is found at no character is found at the tokens of a row alone. -/
theorem filterMap_flatMap_pieces {Found : Type} {found : Piece → Option Found}
    (literal : ∀ char, found (.literal char) = none) (row : List Segment) :
    (row.flatMap Segment.pieces).filterMap found = row.filterMap (Segment.atToken? found) := by
  induction row with
  | nil => rfl
  | cons segment row ih =>
    rw [List.flatMap_cons, List.filterMap_append, ih]
    cases segment with
    | token reference =>
      have same : [Piece.token reference].filterMap found =
        [Segment.token reference].filterMap (Segment.atToken? found) := rfl
      rw [Segment.pieces, same, ← List.filterMap_append, List.singleton_append]
    | literal text =>
      have none : (text.map Piece.literal).filterMap found = [] := by
        rw [List.filterMap_map]
        exact List.filterMap_eq_nil_iff.mpr fun char _ => literal char
      rw [Segment.pieces, none, List.nil_append]
      rfl

/-- **What a pass makes of the segments of a text**: tokens give way, from the left, and literal
stretches stay. -/
theorem pass_of_writes {row : List Segment} {text : Text} (writes : Writes row text) :
    Expansion.pass registry ⟨text, fields, types⟩ =
      ⟨row.flatMap (Segment.replacement registry), fields ++ row.filterMap Segment.field?,
        Entries.extend types (row.filterMap Segment.type?)⟩ := by
  simp only [Expansion.pass, writes.pieces_eq, List.flatMap_assoc, flatMap_replacement_pieces]
  rw [filterMap_flatMap_pieces fun _ => rfl, filterMap_flatMap_pieces fun _ => rfl]
  rfl

/-- **A pass over two texts is a pass over the one and then over the other**, where no token stands
across their seam. -/
theorem pass_append_of_seam {first second : Text} (seam : Seam first second) :
    Expansion.pass registry ⟨first ++ second, fields, types⟩ =
      let one := Expansion.pass registry ⟨first, fields, types⟩
      let two := Expansion.pass registry ⟨second, one.fields, one.types⟩
      ⟨one.text ++ two.text, two.fields, two.types⟩ := by
  simp only [Expansion.pass, pieces_append_of_seam seam, List.flatMap_append, List.filterMap_append,
    List.append_assoc, Entries.extend, List.foldl_append]

end Passes

/-! ### The language of tokens -/

/-- **One pass replaces every token.** The expression of a token is read; every text is written as
one row of segments; the expression matches the tokens of this row, from the left, and a type only
beside a field; a pass puts their replacements in their places and leaves the stretches; tokens in a
text stand apart; and where no token stands across a seam, a pass over both sides is a pass over the
one and then over the other. -/
theorem pass_replaces_tokens [CharacterNames] :
    (Expr.read tokenText).toOption = some tokenExpression ∧
    (∀ text, ∃! row, Writes row text) ∧
    (∀ text row, Writes row text →
      (tokenParts { text }).map (Piece.ofPart text) = row.flatMap Segment.pieces ∧
      ∀ registry fields types, Expansion.pass registry ⟨text, fields, types⟩ =
        ⟨row.flatMap (Segment.replacement registry), fields ++ row.filterMap Segment.field?,
          Entries.extend types (row.filterMap Segment.type?)⟩) ∧
    (∀ text first second one two, StandsAt first one text → StandsAt second two text → one ≤ two →
      (one = two ∧ first = second) ∨ one + first.spell.length ≤ two) ∧
    (∀ done rest found,
      tokenExpression.node.step { text := done ++ rest } ⟨.between done rest, unset⟩ some = some found →
      (found.captures.text? (done ++ rest) 3).isSome = true →
        (found.captures.text? (done ++ rest) 2).isSome = true) ∧
    ∀ first second, Seam first second → ∀ registry fields types,
      Expansion.pass registry ⟨first ++ second, fields, types⟩ =
        let one := Expansion.pass registry ⟨first, fields, types⟩
        let two := Expansion.pass registry ⟨second, one.fields, one.types⟩
        ⟨one.text ++ two.text, two.fields, two.types⟩ := by
  refine ⟨read_tokenText, fun text => ?_, fun text row writes => ⟨?_, ?_⟩, ?_, ?_, ?_⟩
  · exact ⟨segments text, writes_segments text, fun row writes => writes_iff.mp writes⟩
  · rw [parts_eq_pieces, writes.pieces_eq]
  · exact fun registry fields types => pass_of_writes registry fields types writes
  · exact fun text first second one two => standsAt_apart
  · exact fun done rest found => field_of_type rfl
  · exact fun first second seam registry fields types => pass_append_of_seam registry fields types seam

/-- Two tokens, with what looks like a token and is none between them. -/
theorem pass_replaces_tokens_mixed :
    let first := "<%\x7bIP:ip\x7d%\x7bx:y\x7d ".toList
    let second := "%\x7bNUMBER:n:int\x7d".toList
    let ip : Token := ⟨"IP".toList, some ⟨"ip".toList, none⟩⟩
    let number : Token := ⟨"NUMBER".toList, some ⟨"n".toList, some "int".toList⟩⟩
    let row : List Segment :=
      [.literal "<".toList, .token ip, .literal "%\x7bx:y\x7d ".toList, .token number]
    Writes row (first ++ second) ∧ Seam first second ∧
      StandsAt ip 1 (first ++ second) ∧ StandsAt number 16 (first ++ second) ∧
      1 + ip.spell.length ≤ 16 ∧
      (∃ found, tokenExpression.node.step { text := first ++ second }
          ⟨.between first second, unset⟩ some = some found ∧
        found.captures.text? (first ++ second) 3 = some "int".toList ∧
        (found.captures.text? (first ++ second) 2).isSome = true) ∧
      Expansion.pass .builtin ⟨first ++ second, [], []⟩ =
        ⟨row.flatMap (Segment.replacement .builtin), ["ip".toList, "n".toList],
          [("n".toList, "int".toList)]⟩ ∧
      Expansion.pass .builtin ⟨first ++ second, [], []⟩ =
        let one := Expansion.pass .builtin ⟨first, [], []⟩
        let two := Expansion.pass .builtin ⟨second, one.fields, one.types⟩
        ⟨one.text ++ two.text, two.fields, two.types⟩ := by
  intro first second ip number row
  obtain ⟨-, -, written, apart, typed, seams⟩ := pass_replaces_tokens
  have isRow : row = segments (first ++ second) := by decide +kernel
  have writes : Writes row (first ++ second) := writes_iff.mpr isRow
  have seam : Seam first second :=
    seam_of_stop (rfl : continuesToken ' ' = false) (by decide)
      "<%\x7bIP:ip\x7d%\x7bx:y\x7d".toList second
  have here : StandsAt ip 1 (first ++ second) := standsAt_iff.mpr (by decide +kernel)
  have there : StandsAt number 16 (first ++ second) := standsAt_iff.mpr (by decide +kernel)
  have before := (apart _ _ _ _ _ here there (by decide)).resolve_left (nomatch ·.1)
  have matched : (tokenExpression.node.step { text := first ++ second } ⟨.between first second, unset⟩
      some).map (fun found => found.captures.text? (first ++ second) 3) = some (some "int".toList) := by
    decide +kernel
  obtain ⟨found, isFound, isType⟩ := Option.map_eq_some_iff.mp matched
  have field := typed first second found isFound (isType ▸ rfl)
  exact ⟨writes, seam, here, there, before, ⟨found, isFound, isType, field⟩,
    (written _ row writes).2 .builtin [] [], seams first second seam .builtin [] []⟩

end GrokEvents.Grok
