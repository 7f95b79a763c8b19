/-
**Types say nothing about matching.**

A token may give a type to its field. Without the types a source has the same tokens otherwise, in
the same places, so that the first pass makes the same text of it. Whatever the budget, the types
that are recorded are then all that differs.

* `pieces_untyped`: the pieces of a source without its types.
* `expandFrom_untyped`: what the passes come to without the types of the source.
* `named_of_typed`: a name with a type is the name of a field.
* `compile_untyped`: compiling a source with and without its types.
-/

import GrokEvents.Proofs.Grok.Budget
import GrokEvents.Proofs.Service.Boundary

namespace GrokEvents.Grok

open Text

variable {registry : Registry}

/-! ### Tokens without types -/

/-- A token without the type of its field. -/
def Token.untyped (token : Token) : Token :=
  { token with tag := token.tag.map fun tag => ⟨tag.field, none⟩ }

/-- A piece without the type of its field. -/
def Piece.untyped : Piece → Piece
  | .literal char => .literal char
  | .token reference => .token reference.untyped

/-- A text whose tokens have lost the types of their fields. -/
def untyped (text : Text) : Text :=
  ((pieces text).map Piece.untyped).flatMap Piece.spell

theorem Token.WellFormed.untyped {token : Token} (wellFormed : token.WellFormed) :
    token.untyped.WellFormed := by
  refine ⟨wellFormed.name_ne_nil, wellFormed.name_chars, fun bare isBare => ?_⟩
  obtain ⟨tag, tagged, rfl⟩ := Option.map_eq_some_iff.mp isBare
  have fine := wellFormed.tag tag tagged
  exact ⟨fine.field_ne_nil, fine.field_word, nofun, nofun⟩

theorem untyped_eq_replaced (text : Text) :
    untyped text = replaced (fun token => token.untyped.spell) text := by
  rw [untyped, List.flatMap_map]
  refine List.flatMap_congr fun piece _ => ?_
  cases piece <;> rfl

/-- **The pieces of a text whose tokens have lost their types** are the pieces it had, without
types. What only looks like a token stays what it is. -/
theorem pieces_untyped (text : Text) : pieces (untyped text) = (pieces text).map Piece.untyped := by
  have breaks : Breaks continuesToken fun token => token.untyped.spell :=
    ⟨rfl, fun _ => ⟨'%', _, rfl, rfl⟩⟩
  have clean (token : Token) (wellFormed : token.WellFormed) : PercentClean token.untyped.spell :=
    Token.clean_spell wellFormed.untyped
  rw [untyped_eq_replaced, pieces_replaced breaks clean, List.map_eq_flatMap]
  refine List.flatMap_congr fun piece member => ?_
  cases piece with
  | literal char => rfl
  | token token =>
    have wellFormed := (exists_suffix_of_token member).1
    have alone := pieces_spell_append wellFormed.untyped []
    rw [List.append_nil] at alone
    exact alone

namespace Piece

/-- A pass puts the same in the place of a piece, typed or not. -/
theorem replacement_untyped (registry : Registry) (piece : Piece) :
    piece.untyped.replacement registry = piece.replacement registry := by
  match piece with
  | .literal char => rfl
  | .token ⟨name, none⟩ => rfl
  | .token ⟨name, some tag⟩ => rfl

theorem field?_untyped (piece : Piece) : piece.untyped.field? = piece.field? := by
  match piece with
  | .literal char => rfl
  | .token ⟨name, none⟩ => rfl
  | .token ⟨name, some tag⟩ => rfl

theorem type?_untyped (piece : Piece) : piece.untyped.type? = none := by
  match piece with
  | .literal char => rfl
  | .token ⟨name, none⟩ => rfl
  | .token ⟨name, some tag⟩ => rfl

/-- Only a piece with a field has a type to lose. -/
theorem untyped_of_fieldless {piece : Piece} (fieldless : piece.field? = none) :
    piece.untyped = piece := by
  match piece with
  | .literal char => rfl
  | .token ⟨name, none⟩ => rfl
  | .token ⟨name, some tag⟩ => cases fieldless

theorem field?_of_type? {piece : Piece} {field type : Text} (typed : piece.type? = some (field, type)) :
    piece.field? = some field := by
  match piece with
  | .token ⟨name, some ⟨_, some _⟩⟩ =>
    obtain ⟨rfl, -⟩ := Prod.mk.inj (Option.some.inj typed)
    rfl

end Piece

/-! ### Passes without types -/

theorem fields_untyped (text : Text) : (pieces (untyped text)).filterMap Piece.field? =
    (pieces text).filterMap Piece.field? := by
  rw [pieces_untyped, List.filterMap_map]
  exact List.filterMap_congr fun piece _ => piece.field?_untyped

theorem types_untyped (text : Text) : (pieces (untyped text)).filterMap Piece.type? = [] := by
  rw [pieces_untyped, List.filterMap_map, List.filterMap_eq_nil_iff]
  exact fun piece _ => piece.type?_untyped

theorem substitute_untyped (registry : Registry) (text : Text) :
    substitute registry (untyped text) = substitute registry text := by
  rw [substitute, pieces_untyped, List.flatMap_map]
  exact List.flatMap_congr fun piece _ => piece.replacement_untyped registry

/-- A text without fields has no types to lose. -/
theorem untyped_of_fieldless {text : Text} (fieldless : (pieces text).filterMap Piece.field? = []) :
    untyped text = text ∧ (pieces text).filterMap Piece.type? = [] := by
  rw [List.filterMap_eq_nil_iff] at fieldless
  have same : (pieces text).map Piece.untyped = (pieces text).map id :=
    List.map_congr_left fun piece member => Piece.untyped_of_fieldless (fieldless piece member)
  rw [List.map_id] at same
  have typeless : (pieces text).filterMap Piece.type? = [] := by
    rw [← same, List.filterMap_map, List.filterMap_eq_nil_iff]
    exact fun piece _ => piece.type?_untyped
  rw [untyped, same, spell_pieces]
  exact ⟨rfl, typeless⟩

/-- A text with a field is changed by the next pass. -/
theorem expandFrom_of_fields {text : Text} (declares : (pieces text).filterMap Piece.field? ≠ [])
    (budget : Nat) (fields : List Text) (types : Entries Text Text) :
    (expandFrom registry (budget + 1) ⟨text, fields, types⟩).value =
      (expandFrom registry budget (Expansion.pass registry ⟨text, fields, types⟩)).value := by
  have changed : substitute registry text ≠ text := by
    intro same
    have counted := count_opening_substitute registry text
    have some := List.length_pos_of_ne_nil declares
    rw [same] at counted
    omega
  have pending : isPending text = true := by
    obtain ⟨field, member⟩ := List.exists_mem_of_ne_nil _ declares
    obtain ⟨literal | token, inText, declared⟩ := List.mem_filterMap.mp member
    · cases declared
    · exact isPending_iff_token_or_stuck.mpr (.inl ⟨token, inText⟩)
  exact expandFrom_of_changed pending changed budget fields types

/-- **What the passes come to without the types of the source**: the same text with the same fields. The
types of the source are those that are missing, written before any that fragments bring. -/
theorem expandFrom_untyped (registry : Registry) {budget : Nat} (allowed : 0 < budget) (text : Text) :
    let typed := (expandFrom registry budget ⟨text, [], []⟩).value
    let bare := (expandFrom registry budget ⟨untyped text, [], []⟩).value
    bare.text = typed.text ∧ bare.fields = typed.fields ∧
      typed.types =
        Entries.extend (Entries.ofList ((pieces text).filterMap Piece.type?)) bare.types := by
  by_cases fieldless : (pieces text).filterMap Piece.field? = []
  · obtain ⟨same, typeless⟩ := untyped_of_fieldless fieldless
    rw [same, typeless]
    refine ⟨rfl, rfl, ?_⟩
    exact congrArg Expansion.types (expandFrom_eq_behind registry budget ⟨text, [], []⟩)
  · obtain ⟨budget, rfl⟩ := Nat.exists_eq_add_one.mpr allowed
    have bare : Expansion.pass registry ⟨untyped text, [], []⟩ =
        ⟨substitute registry text, (pieces text).filterMap Piece.field?, []⟩ := by
      show Expansion.mk (substitute registry (untyped text)) _ (Entries.extend [] _) = _
      rw [substitute_untyped, fields_untyped, types_untyped, List.nil_append]
      rfl
    rw [expandFrom_of_fields fieldless, expandFrom_of_fields (fields_untyped text ▸ fieldless), bare,
      expandFrom_eq_behind registry budget (Expansion.pass registry _),
      expandFrom_eq_behind registry budget ⟨substitute registry text, _, []⟩]
    exact ⟨rfl, rfl, (Entries.extend_ofList _ _).symm⟩

/-! ### Names with types -/

/-- **A name with a type is the name of a field.** -/
theorem named_of_typed (registry : Registry) (budget : Nat) (source : Text) :
    Entries.keys (expand registry budget source).value.types ⊆
      (expand registry budget source).value.fields := by
  rw [expand_value]
  refine expandFrom_induction (fun expansion => Entries.keys expansion.types ⊆ expansion.fields)
    (fun expansion known name typed => ?_) budget (List.nil_subset _)
  rw [Expansion.pass, List.mem_append]
  rcases Entries.mem_keys_extend typed with before | new
  · exact .inl (known before)
  · obtain ⟨⟨_, type⟩, isType, rfl⟩ := List.mem_map.mp new
    obtain ⟨piece, member, found⟩ := List.mem_filterMap.mp isType
    exact .inr (List.mem_filterMap.mpr ⟨piece, member, Piece.field?_of_type? found⟩)

/-! ### Compiling without types -/

/-- **Types say nothing about matching.** Whatever was compiled before, a source and the same source
without the types of its tokens expand to one text with the same fields, resolved or not, and one
has a pattern where the other has. The patterns differ in their sources and in the types that are
recorded, and match every text alike. Types are recorded for fields only. -/
theorem compile_untyped [Expr.CharacterNames] (registry : Registry) {passes : Nat}
    (allowed : 0 < passes) (cacheSize : Nat) (requests : List Request) (source : Text) :
    let compiler := served (.fresh registry passes cacheSize) requests
    let typed := (expand registry passes source).value
    let bare := (expand registry passes (untyped source)).value
    pieces (untyped source) = (pieces source).map Piece.untyped ∧
      bare.text = typed.text ∧ bare.fields = typed.fields ∧ bare.isResolved = typed.isResolved ∧
      typed.types = Entries.extend (Entries.ofList ((pieces source).filterMap Piece.type?)) bare.types ∧
      (∀ name ∈ Entries.keys typed.types, name ∈ typed.fields) ∧
      (compiler.compile (untyped source)).value.1 =
        (compiler.compile source).value.1.map (fun pattern =>
        { pattern with
          source := untyped source, expansion := { pattern.expansion with types := bare.types } }) ∧
      ∀ pattern, (compiler.compile source).value.1 = .ok pattern →
        ∃ other, (compiler.compile (untyped source)).value.1 = .ok other ∧
          ∀ text, other.match? text = pattern.match? text := by
  intro compiler typed bare
  have reliable : Reliable registry passes compiler :=
    reliable_served registry passes cacheSize requests
  obtain ⟨isText, isFields, isTypes⟩ := expandFrom_untyped registry allowed source
  rw [← expand_value, ← expand_value] at isText isFields isTypes
  have isBare : bare = { typed with types := bare.types } :=
    congrArg₂ (Expansion.mk · · bare.types) isText isFields
  have compiled : (compiler.compile (untyped source)).value.1 =
      (compiler.compile source).value.1.map (fun pattern =>
        { pattern with
          source := untyped source, expansion := { pattern.expansion with types := bare.types } }) := by
    rw [reliable.compile_value, reliable.compile_value, Pattern.compile_value, Pattern.compile_value,
      isText]
    rcases Expr.Engine.read typed.text with (cause | fault) | expression
    · exact congrArg (fun last => Except.ok (Pattern.mk (untyped source) last none)) isBare
    · rfl
    · exact congrArg (fun last => Except.ok (Pattern.mk (untyped source) last (some expression))) isBare
  refine ⟨pieces_untyped source, isText, isFields, congrArg (!isPending ·) isText, isTypes,
    fun name => @named_of_typed registry passes source name, compiled, fun pattern isPattern => ?_⟩
  rw [isPattern] at compiled
  exact ⟨_, compiled, fun text => rfl⟩

/-- What looks like a type and is none stays, and the types that fragments bring are recorded. -/
theorem compile_untyped_readings :
    let readings : Registry := .layered [("READING".toList, "%\x7bINT:value:int\x7d".toList)]
    let source := "%\x7bREADING:last:float\x7d %\x7bINT::int\x7d %\x7bWORD:unit\x7d".toList
    untyped source = "%\x7bREADING:last\x7d %\x7bINT::int\x7d %\x7bWORD:unit\x7d".toList ∧
      (expand readings 2 (untyped source)).value.text =
        "(?P<last>(?P<value>(?:[+-]?[0-9]+))) %\x7bINT::int\x7d (?P<unit>\\b\\w+\\b)".toList ∧
      (expand readings 2 (untyped source)).value.types = [("value".toList, "int".toList)] ∧
      (expand readings 2 source).value.types =
        [("last".toList, "float".toList), ("value".toList, "int".toList)] := by
  intro readings source
  obtain ⟨-, isText, -, -, isTypes, -⟩ := compile_untyped readings (by decide : 0 < 2) 1 [] source
  have types : (expand readings 2 (untyped source)).value.types = [("value".toList, "int".toList)] := by
    decide +kernel
  refine ⟨by decide +kernel, isText.trans (by decide +kernel), types, ?_⟩
  rw [isTypes, types]
  decide +kernel

end GrokEvents.Grok
