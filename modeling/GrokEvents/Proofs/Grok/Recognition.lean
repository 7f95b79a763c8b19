/-
**Tokens are recognised.**

Tokens are found by an expression with two optional parts, whose classes of characters overlap: what
may be a type may be a field as well. Matched at a place, it still finds the token that is read
there and nothing else, with the name, the field and the type in its groups, so that searching for
its matches one behind the other comes to the pieces of a text.

* `read_tokenText`: the expression as it is written, and the tree that it denotes.
* `spells_tokenNode`: whatever the tree consumes is the spelling of a well-formed token.
* `finds_tokenNode`: over a spelling, the groups keep the parts of the token.
* `step_tokenNode`: what the expression finds at a place.
* `parts_eq_pieces`: the matches in a text and the characters between them.
-/

import GrokEvents.Proofs.AccessLog.Parts
import GrokEvents.Proofs.Expr.Finding

namespace GrokEvents.Grok

open Text Expr AccessLog

/-! ### The expression -/

def nameSet : CharSet := setOf [.span 'A'.toNat 'Z'.toNat, .span '0'.toNat '9'.toNat, .one '_'.toNat]

def fieldSet : CharSet := setOf (letterOrDigit ++ [.one '_'.toNat])

def typeSet : CharSet := setOf [.span 'a'.toNat 'z'.toNat, .span 'A'.toNat 'Z'.toNat]

theorem contains_nameSet (char : Char) : nameSet.contains char = isNameChar char := by
  rw [nameSet, contains_setOf]
  simp only [List.any_cons, List.any_nil, covers_upper, covers_digit, covers_one, Bool.or_false,
    isNameChar, Bool.or_assoc]

theorem contains_fieldSet (char : Char) : fieldSet.contains char = isWordChar char := by
  rw [fieldSet, contains_setOf, List.any_append, any_letterOrDigit]
  simp only [List.any_cons, List.any_nil, covers_one, Bool.or_false, isWordChar]

theorem contains_typeSet (char : Char) : typeSet.contains char = char.isAlpha := by
  rw [typeSet, contains_setOf]
  simp only [List.any_cons, List.any_nil, covers_lower, covers_upper, Bool.or_false]
  exact Bool.or_comm _ _

/-- A colon and characters of a set behind it, kept under a group. -/
def partNode (group : Nat) (set : CharSet) : Node :=
  .seq (literal ':') (.capture group (many 1 set))

/-- A name in braces behind a percent sign, perhaps with a field and a type. -/
def tokenNode : Node :=
  .ofList [literal '%', literal '{', .capture 1 (many 1 nameSet), maybe (partNode 2 fieldSet),
    maybe (partNode 3 typeSet), literal '}']

/-- The expression of a token. -/
def tokenExpression : Expression where
  node := tokenNode
  groupCount := 3
  names := [("pattern".toList, 1), ("field".toList, 2), ("type".toList, 3)]

/-- The expression of a token as it is written. -/
def tokenText : Text :=
  "%\\\x7b(?P<pattern>[A-Z0-9_]+)(?::(?P<field>[a-zA-Z0-9_]+))?(?::(?P<type>[a-zA-Z]+))?\\\x7d".toList

theorem read_tokenText [CharacterNames] :
    (Expr.read tokenText).toOption = some tokenExpression := by
  have unnamed : .escape 'N' ∉ lexemes tokenText := by decide +kernel
  rw [read_of_unnamed unnamed]
  decide +kernel

/-! ### What it spells -/

/-- A part of a token behind its colon, if it is there. -/
def spellPart (part : Option Text) : Text :=
  (part.map (':' :: ·)).getD []

/-- What is there of a part is not empty and made of characters of a set. -/
structure IsPart (set : CharSet) (part : Option Text) : Prop where
  nonempty : part ≠ some []
  all : ∀ text, part = some text → ∀ char ∈ text, set.contains char = true

theorem head?_spellPart (part : Option Text) {rest : Text} {char : Char}
    (ahead : (spellPart part ++ rest).head? = some char) : char = ':' ∨ rest.head? = some char := by
  cases part with
  | none => exact .inr ahead
  | some text => exact .inl (Option.some.inj ahead).symm

namespace Token

/-- The field of a token. -/
def field? (token : Token) : Option Text :=
  token.tag.map Tag.field

/-- The type that a token gives to its field. -/
def type? (token : Token) : Option Text :=
  token.tag.bind Tag.type

theorem spell_eq_parts (token : Token) : token.spell =
    ['%'] ++ (['{'] ++ (token.name ++
      (spellPart token.field? ++ (spellPart token.type? ++ ['}'])))) := by
  match token with
  | ⟨name, none⟩ => simp [spell, spellPart, field?, type?]
  | ⟨name, some ⟨field, type⟩⟩ => simp [spell, Tag.spell, spellPart, field?, type?]

namespace WellFormed

variable {token : Token} (wellFormed : token.WellFormed)

include wellFormed

theorem isPart_field? : IsPart fieldSet token.field? := by
  constructor
  · intro empty
    obtain ⟨tag, tagged, isEmpty⟩ := Option.map_eq_some_iff.mp empty
    exact (wellFormed.tag tag tagged).field_ne_nil isEmpty
  · intro text isField char member
    obtain ⟨tag, tagged, rfl⟩ := Option.map_eq_some_iff.mp isField
    rw [contains_fieldSet]
    exact (wellFormed.tag tag tagged).field_word char member

theorem isPart_type? : IsPart typeSet token.type? := by
  constructor
  · intro empty
    obtain ⟨tag, tagged, isEmpty⟩ := Option.bind_eq_some_iff.mp empty
    exact (wellFormed.tag tag tagged).type_ne_nil isEmpty
  · intro text isType char member
    obtain ⟨tag, tagged, typed⟩ := Option.bind_eq_some_iff.mp isType
    rw [contains_typeSet]
    exact (wellFormed.tag tag tagged).type_alpha text typed char member

end WellFormed

end Token

/-- Whatever an optional part consumes is a part, or nothing. -/
theorem spells_part {group : Nat} {set : CharSet} {text : Text}
    (spelled : (maybe (partNode group set)).Spells text) :
    ∃ part, text = spellPart part ∧ IsPart set part := by
  obtain ⟨rounds, each, -, within, rfl⟩ := spelled
  have few : rounds.length ≤ 1 := by simpa using within 1 rfl
  match rounds with
  | [] => exact ⟨none, rfl, nofun, nofun⟩
  | [round] =>
    obtain ⟨colon, inside, isColon, inBody, rfl⟩ := each round List.mem_cons_self
    obtain rfl := eq_of_spells_literal isColon
    obtain ⟨all, long⟩ := Rounds.of_one inBody
    refine ⟨some inside, by simp [spellPart], ?_, ?_⟩
    · intro empty
      rw [Option.some.inj empty] at long
      cases long
    · intro other same
      rwa [← Option.some.inj same]

/-- **Whatever the tree consumes is the spelling of a well-formed token.** A type without a field is
read as the field that it could be. -/
theorem spells_tokenNode {text : Text} (spelled : tokenNode.Spells text) :
    ∃ token : Token, token.WellFormed ∧ text = token.spell := by
  obtain ⟨percent, _, isPercent, ⟨brace, _, isBrace, ⟨name, _, isName, ⟨_, _, isField,
    ⟨_, closing, isType, isClosing, rfl⟩, rfl⟩, rfl⟩, rfl⟩, rfl⟩ := spelled
  obtain rfl := eq_of_spells_literal isPercent
  obtain rfl := eq_of_spells_literal isBrace
  obtain rfl := eq_of_spells_literal isClosing
  obtain ⟨nameChars, long⟩ := Rounds.of_one isName
  have named : name ≠ [] := List.length_pos_iff.mp long
  obtain ⟨field, rfl, someField, word⟩ := spells_part isField
  obtain ⟨type, rfl, someType, alpha⟩ := spells_part isType
  simp only [contains_nameSet] at nameChars
  simp only [contains_fieldSet] at word
  simp only [contains_typeSet] at alpha
  match field, type with
  | none, none =>
    exact ⟨⟨name, none⟩, ⟨named, nameChars, nofun⟩, (Token.spell_eq_parts ⟨name, none⟩).symm⟩
  | some field, type =>
    refine ⟨⟨name, some ⟨field, type⟩⟩, ⟨named, nameChars, fun tag tagged => ?_⟩,
      (Token.spell_eq_parts ⟨name, some ⟨field, type⟩⟩).symm⟩
    obtain rfl := Option.some.inj tagged
    exact ⟨fun empty => someField (congrArg some empty), word field rfl, someType, alpha⟩
  | none, some type =>
    refine ⟨⟨name, some ⟨type, none⟩⟩, ⟨named, nameChars, fun tag tagged => ?_⟩,
      (Token.spell_eq_parts ⟨name, some ⟨type, none⟩⟩).symm⟩
    obtain rfl := Option.some.inj tagged
    refine ⟨fun empty => someType (congrArg some empty), fun char member => ?_, nofun, nofun⟩
    simp [isWordChar, Char.isAlphanum, alpha type rfl char member]

/-! ### What its groups keep -/

variable {subject : Subject} {next : Option Char} {groups : Nat} {done rest : Text}

/-- Characters of a set are kept in a group, up to a character that is not in the set. -/
theorem finds_many {set : CharSet} {group : Nat} {text : Text} (positive : 0 < group)
    (within : group - 1 < groups) (nonempty : text ≠ []) (all : ∀ char ∈ text, set.contains char = true)
    (stops : ∀ char, rest.head? = some char → set.contains char = false) :
    Finds subject groups next (.capture group (many 1 set)) done text rest [(group, text)] :=
  .capture positive within fun _ _ => reads_many all (List.length_pos_iff.mpr nonempty) stops

/-- What a group keeps of a part. -/
def keptPart (group : Nat) (part : Option Text) : Entries Nat Text :=
  (part.map fun text => (group, text)).toList

/-- An optional part is read where it is there, and passed over where no colon is. -/
theorem finds_part {set : CharSet} {group : Nat} {part : Option Text} (positive : 0 < group)
    (within : group - 1 < groups) (isPart : IsPart set part)
    (stops : ∀ char, rest.head? = some char → set.contains char = false)
    (absent : part = none → rest.head? ≠ some ':') :
    Finds subject groups next (maybe (partNode group set)) done (spellPart part) rest
      (keptPart group part) := by
  match part with
  | none =>
    refine .of_reads fun _ _ => reads_nothing nofun (Blocked.seq (blocked_one fun char ahead => ?_) _)
    rw [Bool.eq_false_iff]
    intro contained
    obtain rfl := (CharSet.literal_contains ':' char).mp contained
    exact absent rfl ahead
  | some text =>
    have nonempty : text ≠ [] := fun empty => isPart.nonempty (congrArg some empty)
    exact .optional nofun
      (.behind_literal (finds_many positive within nonempty (isPart.all text rfl) stops))

/-- What the groups keep of a token, the last first. -/
def Token.kept (token : Token) : Entries Nat Text :=
  keptPart 3 token.type? ++ keptPart 2 token.field? ++ [(1, token.name)]

/-- **Over the spelling of a token, the groups keep its parts**, whatever stands before and behind
it. The field takes all characters up to a colon or the brace, so that nothing is left for a type
without one. -/
theorem finds_tokenNode {token : Token} (wellFormed : token.WellFormed) :
    Finds subject 3 none tokenNode done token.spell rest token.kept := by
  have name : ∀ char ∈ token.name, nameSet.contains char = true := by
    intro char member
    rw [contains_nameSet]
    exact wellFormed.name_chars char member
  have untyped : token.field? = none → token.type? = none := by
    intro untagged
    rw [Token.type?, Option.map_eq_none_iff.mp untagged]
    rfl
  have behindType (char : Char) (ahead : (['}'] ++ rest).head? = some char) : char = '}' :=
    (Option.some.inj ahead).symm
  have behindField (char : Char)
      (ahead : ((spellPart token.type? ++ ['}']) ++ rest).head? = some char) :
      char = ':' ∨ char = '}' := by
    rw [List.append_assoc] at ahead
    exact (head?_spellPart _ ahead).imp_right (behindType char)
  have behindName (char : Char)
      (ahead : ((spellPart token.field? ++ (spellPart token.type? ++ ['}'])) ++ rest).head? =
        some char) :
      char = ':' ∨ char = '}' := by
    rw [List.append_assoc] at ahead
    exact (head?_spellPart _ ahead).elim .inl (behindField char)
  have inName : Finds subject 3 none (.capture 1 (many 1 nameSet)) (done ++ ['%'] ++ ['{']) token.name
      ((spellPart token.field? ++ (spellPart token.type? ++ ['}'])) ++ rest) [(1, token.name)] := by
    refine finds_many Nat.one_pos (by decide) wellFormed.name_ne_nil name fun char ahead => ?_
    rw [contains_nameSet]
    obtain rfl | rfl := behindName char ahead <;> rfl
  have inField : Finds subject 3 none (maybe (partNode 2 fieldSet))
      (done ++ ['%'] ++ ['{'] ++ token.name)
      (spellPart token.field?) ((spellPart token.type? ++ ['}']) ++ rest)
        (keptPart 2 token.field?) := by
    refine finds_part Nat.two_pos (by decide) wellFormed.isPart_field? (fun char ahead => ?_) ?_
    · rw [contains_fieldSet]
      obtain rfl | rfl := behindField char ahead <;> rfl
    · intro untagged
      rw [untyped untagged]
      nofun
  have inType : Finds subject 3 none (maybe (partNode 3 typeSet))
      (done ++ ['%'] ++ ['{'] ++ token.name ++ spellPart token.field?) (spellPart token.type?)
      (['}'] ++ rest) (keptPart 3 token.type?) := by
    refine finds_part (Nat.succ_pos 2) (by decide) wellFormed.isPart_type? (fun char ahead => ?_) nofun
    rw [contains_typeSet, behindType char ahead]
    rfl
  rw [token.spell_eq_parts]
  exact .behind_literal (.behind_literal (inName.seq (inField.seq (inType.seq finds_literal))))

/-! ### Matching at a place -/

/-- The captures before a match. -/
def unset : Captures :=
  List.replicate tokenExpression.groupCount {}

/-- The groups of a match keep the parts of a token. -/
structure Token.KeptIn (token : Token) (subject : Text) (captures : Captures) : Prop where
  name : captures.text? subject 1 = some token.name
  field : captures.text? subject 2 = token.field?
  type : captures.text? subject 3 = token.type?

/-- **Where a token is read, the expression finds it**: it moves on over the spelling, and its
groups keep the parts. -/
theorem step_of_atStart? {token : Token} (whole : subject.text = done ++ rest)
    (found : Token.atStart? rest = some token) :
    ∃ after captures, rest = token.spell ++ after ∧ token.KeptIn subject.text captures ∧
      tokenNode.step subject ⟨.between done rest, unset⟩ some =
        some ⟨.between (done ++ token.spell) after, captures⟩ := by
  obtain ⟨wellFormed, after, rfl⟩ := Token.atStart?_eq_some_iff.mp found
  rw [← List.append_assoc] at whole
  obtain ⟨captures, -, reads, keeps⟩ := finds_tokenNode wellFormed whole unset rfl
  refine ⟨after, captures, rfl, ?_, reads some trivial rfl⟩
  have keeps (group : Nat) (positive : 0 < group) :
      captures.text? subject.text group = Entries.get? group token.kept := by
    rw [keeps group positive, unset, text?_unset, Option.or_none]
  match token with
  | ⟨name, none⟩ | ⟨name, some ⟨field, none⟩⟩ | ⟨name, some ⟨field, some type⟩⟩ =>
    exact ⟨keeps 1 (by decide), keeps 2 (by decide), keeps 3 (by decide)⟩

/-- **Where none is read, the expression finds nothing**, whatever the subject is. -/
theorem step_of_atStart?_none (none : Token.atStart? rest = none) :
    tokenNode.step subject ⟨.between done rest, unset⟩ some = .none := by
  rw [Option.eq_none_iff_forall_ne_some]
  intro found matched
  obtain ⟨text, reached, spelled, moved, -⟩ := faithful_step subject tokenNode _ _ _ matched
  obtain ⟨token, wellFormed, rfl⟩ := spells_tokenNode spelled
  obtain ⟨after, rfl, -⟩ := moved.between
  rw [Token.atStart?_spell wellFormed] at none
  cases none

/-- **A type is only ever read together with a field**, wherever the expression is matched. -/
theorem field_of_type {found : Progress} (whole : subject.text = done ++ rest)
    (matched : tokenNode.step subject ⟨.between done rest, unset⟩ some = some found)
    (typed : (found.captures.text? subject.text 3).isSome = true) :
    (found.captures.text? subject.text 2).isSome = true := by
  cases isToken : Token.atStart? rest with
  | none =>
    rw [step_of_atStart?_none isToken] at matched
    cases matched
  | some token =>
    obtain ⟨after, captures, -, kept, same⟩ := step_of_atStart? whole isToken
    rw [matched] at same
    obtain rfl := Option.some.inj same
    rw [kept.type] at typed
    rw [kept.field]
    cases tagged : token.tag with
    | none =>
      rw [Token.type?, tagged] at typed
      cases typed
    | some tag =>
      rw [Token.field?, tagged]
      rfl

/-! ### Matching through a text -/

/-- The captures of the matches of a node, one behind the other, and the characters between them, where
`skip` more characters belong to the match found last. The node has to take something. -/
def partsFrom (node : Node) (subject : Subject) (unset : Captures) :
    (skip : Nat) → Text → Cursor → List (Char ⊕ Captures)
  | _, [], _ => []
  | skip + 1, char :: rest, cursor => partsFrom node subject unset skip rest (cursor.next char rest)
  | 0, char :: rest, cursor =>
    match node.step subject ⟨cursor, unset⟩ some with
    | some found =>
      .inr found.captures :: partsFrom node subject unset
        (found.cursor.position - cursor.position - 1) rest (cursor.next char rest)
    | none => .inl char :: partsFrom node subject unset 0 rest (cursor.next char rest)

/-- The matches of the expression of a token in a subject, and the characters between them. -/
def tokenParts (subject : Subject) : List (Char ⊕ Captures) :=
  partsFrom tokenExpression.node subject unset 0 subject.text (.start subject.text)

namespace Piece

/-- A match as a token, which has a tag where the match has a field. -/
def ofPart (subject : Text) : Char ⊕ Captures → Piece
  | .inl char => .literal char
  | .inr captures => .token
    ⟨(captures.text? subject 1).getD [],
      (captures.text? subject 2).map fun field => ⟨field, captures.text? subject 3⟩⟩

theorem ofPart_of_keptIn {token : Token} {subject : Text} {captures : Captures}
    (kept : token.KeptIn subject captures) : ofPart subject (.inr captures) = .token token := by
  rw [ofPart, kept.name, kept.field, kept.type]
  match token with
  | ⟨name, none⟩ | ⟨name, some ⟨field, type⟩⟩ => rfl

end Piece

theorem map_partsFrom (whole : subject.text = done ++ rest) (skip : Nat) :
    (partsFrom tokenNode subject unset skip rest (.between done rest)).map (Piece.ofPart subject.text) =
      piecesFrom skip rest := by
  induction rest generalizing done skip with
  | nil => cases skip <;> rfl
  | cons char rest ih =>
    have onward (skip : Nat) := ih (whole.trans (List.append_cons done char rest)) skip
    rw [← Cursor.next_between] at onward
    cases skip with
    | succ skip => exact onward skip
    | zero =>
      rw [partsFrom, piecesFrom]
      cases isToken : Token.atStart? (char :: rest) with
      | none =>
        rw [step_of_atStart?_none isToken]
        exact congrArg _ (onward 0)
      | some token =>
        obtain ⟨after, captures, -, kept, same⟩ := step_of_atStart? whole isToken
        rw [same]
        dsimp only
        rw [List.map_cons, Piece.ofPart_of_keptIn kept, onward]
        simp [Cursor.between]

/-- **Matching the expression through a text comes to its pieces.** -/
theorem parts_eq_pieces (text : Text) :
    (tokenParts { text }).map (Piece.ofPart text) = pieces text := by
  have whole : ({ text } : Subject).text = [] ++ text := rfl
  exact map_partsFrom whole 0

end GrokEvents.Grok
