/-
**Tables that are accepted.**

A table of patterns is judged entry by entry, in order, and in an entry the name before the
fragment. What passes for a name is a pattern name or a pattern name with one line break behind it.
A token has room for the first kind only: the fragment of a name with a line break is kept, and
nothing can refer to it.

* `ofTable_eq_error_iff`: a table is refused for the first of its entries that is not good.
* `substitute_reference`: a token without a tag becomes the fragment of its name.
* `ofTable_judged`: the tables that are accepted, what others are refused for, and the names that
  can be referred to.
-/

import GrokEvents.Grok.Expansion
import GrokEvents.Proofs.Grok.Layers
import GrokEvents.Proofs.Grok.Token

namespace GrokEvents.Grok

/-! ### Names -/

/-- At least one character, all of them capital letters, digits or underscores. -/
def IsPatternName (name : Text) : Prop :=
  name ≠ [] ∧ ∀ char ∈ name, ('A' ≤ char ∧ char ≤ 'Z') ∨ ('0' ≤ char ∧ char ≤ '9') ∨ char = '_'

/-- A pattern name, perhaps with one line break behind it. -/
def PassesForName (name : Text) : Prop :=
  ∃ stem, IsPatternName stem ∧ (name = stem ∨ name = stem ++ ['\n'])

theorem isNameChar_iff (char : Char) : isNameChar char = true ↔
    ('A' ≤ char ∧ char ≤ 'Z') ∨ ('0' ≤ char ∧ char ≤ '9') ∨ char = '_' := by
  have upper : char.isUpper = true ↔ 'A' ≤ char ∧ char ≤ 'Z' :=
    decide_eq_true_iff
  have digit : char.isDigit = true ↔ '0' ≤ char ∧ char ≤ '9' :=
    Bool.and_eq_true_iff.trans (and_congr decide_eq_true_iff decide_eq_true_iff)
  rw [isNameChar, Bool.or_eq_true, Bool.or_eq_true, upper, digit, beq_iff_eq, or_assoc]

theorem isName_iff {name : Text} : isName name = true ↔ IsPatternName name := by
  have nonempty : (!name.isEmpty) = true ↔ name ≠ [] := by
    cases name <;> simp
  rw [isName, Bool.and_eq_true, nonempty, List.all_eq_true]
  exact and_congr_right fun _ => forall₂_congr fun char _ => isNameChar_iff char

/-- No pattern name ends with a line break. -/
theorem IsPatternName.not_break (stem : Text) : ¬ IsPatternName (stem ++ ['\n']) := by
  rintro ⟨-, chars⟩
  have last := (isNameChar_iff '\n').mpr (chars '\n' (List.mem_append_right _ List.mem_cons_self))
  cases last

theorem acceptsName_iff {name : Text} : acceptsName name = true ↔ PassesForName name := by
  rw [acceptsName, isName_iff]
  constructor
  · intro named
    split at named
    · rename_i broken
      obtain ⟨stem, rfl⟩ := List.getLast?_eq_some_iff.mp broken
      rw [List.dropLast_concat] at named
      exact ⟨stem, named, .inr rfl⟩
    · exact ⟨name, named, .inl rfl⟩
  · rintro ⟨stem, named, rfl | rfl⟩
    · split
      · rename_i broken
        obtain ⟨front, rfl⟩ := List.getLast?_eq_some_iff.mp broken
        exact absurd named (IsPatternName.not_break _)
      · exact named
    · rw [if_pos List.getLast?_concat, List.dropLast_concat]
      exact named

namespace Registry

/-! ### Entries -/

/-- A text for its name, one that is accepted, and a text for its fragment. -/
def EntryOf (accepts : Text → Prop) (entry : Value × Value) : Prop :=
  ∃ name fragment, entry = (.text name, .text fragment) ∧ accepts name

/-- What is wrong with an entry. The fragment is at fault only where the name is not. -/
inductive Offends (accepts : Text → Prop) : Value × Value → RegistryError → Prop where
  | name {key value : Value} (refused : ∀ name, key = .text name → ¬ accepts name) :
    Offends accepts (key, value) (.invalidName key)
  | fragment {name : Text} {value : Value} (accepted : accepts name)
    (noText : ∀ fragment, value ≠ .text fragment) :
    Offends accepts (.text name, value) (.fragmentNotText name)

/-- Entries that are good, and then one that is not. -/
def IsRefusedFor (accepts : Text → Prop) (table : List (Value × Value)) (error : RegistryError) :
    Prop :=
  ∃ before entry after, table = before ++ entry :: after ∧ (∀ fine ∈ before, EntryOf accepts fine) ∧
    Offends accepts entry error

/-- A table is accepted just where all its entries are good, and refused for the first one that is
not. -/
structure JudgedBy (accepts : Text → Prop) (table : List (Value × Value)) : Prop where
  accepted : (∃ registry, ofTable table = .ok registry) ↔ ∀ entry ∈ table, EntryOf accepts entry
  refused : ∀ error, ofTable table = .error error ↔ IsRefusedFor accepts table error

theorem Offends.not_entryOf {accepts : Text → Prop} {entry : Value × Value} {error : RegistryError}
    (offends : Offends accepts entry error) : ¬ EntryOf accepts entry := by
  rintro ⟨name, fragment, same, accepted⟩
  cases offends with
  | name refused =>
    cases same
    exact refused name rfl accepted
  | fragment _ noText =>
    cases same
    exact noText fragment rfl

theorem exists_checkEntry_eq_ok_iff {entry : Value × Value} :
    (∃ checked, checkEntry entry = .ok checked) ↔ EntryOf PassesForName entry := by
  constructor
  · rintro ⟨checked, good⟩
    obtain ⟨same, accepted⟩ := checkEntry_eq_ok_iff.mp good
    exact ⟨checked.1, checked.2, same, acceptsName_iff.mp accepted⟩
  · rintro ⟨name, fragment, same, accepted⟩
    exact ⟨(name, fragment), checkEntry_eq_ok_iff.mpr ⟨same, acceptsName_iff.mpr accepted⟩⟩

theorem offends_of_checkEntry {entry : Value × Value} {error : RegistryError}
    (bad : checkEntry entry = .error error) : Offends PassesForName entry error := by
  obtain ⟨key, value⟩ := entry
  cases key with
  | text name =>
    cases accepted : acceptsName name with
    | false =>
      simp only [checkEntry, accepted, Bool.false_eq_true, if_false] at bad
      cases bad
      refine .name fun other same passes => ?_
      cases same
      rw [acceptsName_iff.mpr passes] at accepted
      cases accepted
    | true =>
      simp only [checkEntry, accepted, if_true] at bad
      cases value with
      | text fragment => cases bad
      | _ =>
        cases bad
        refine .fragment (acceptsName_iff.mp accepted) fun fragment same => ?_
        cases same
  | _ =>
    cases bad
    refine .name fun name same => ?_
    cases same

theorem checkEntry_eq_error_iff {entry : Value × Value} {error : RegistryError} :
    checkEntry entry = .error error ↔ Offends PassesForName entry error := by
  refine ⟨offends_of_checkEntry, fun offends => ?_⟩
  cases checked : checkEntry entry with
  | ok checked => exact absurd (exists_checkEntry_eq_ok_iff.mp ⟨_, checked⟩) offends.not_entryOf
  | error other =>
    -- An entry has one fault at most, so the one that is found is the one that is given.
    have found := offends_of_checkEntry checked
    cases offends with
    | name refused =>
      cases found with
      | name => rfl
      | fragment accepted => exact absurd accepted (refused _ rfl)
    | fragment accepted =>
      cases found with
      | name refused => exact absurd accepted (refused _ rfl)
      | fragment => rfl

/-! ### Tables -/

/-- Checking a list ends in an error just where checking one of its items does, after good ones. -/
theorem mapM_eq_error_iff {Item Checked Error : Type} {check : Item → Except Error Checked}
    {items : List Item} {error : Error} : items.mapM check = .error error ↔
      ∃ before item after, items = before ++ item :: after ∧
        (∀ fine ∈ before, ∃ checked, check fine = .ok checked) ∧ check item = .error error := by
  induction items with
  | nil =>
    constructor
    · nofun
    · rintro ⟨before, item, after, empty, -⟩
      cases before <;> cases empty
  | cons first items ih =>
    rw [List.mapM_cons]
    constructor
    · intro failed
      cases checked : check first with
      | error problem =>
        rw [checked] at failed
        cases failed
        exact ⟨[], first, items, rfl, nofun, checked⟩
      | ok good =>
        rw [checked] at failed
        cases others : items.mapM check with
        | ok rest =>
          rw [others] at failed
          cases failed
        | error problem =>
          rw [others] at failed
          cases failed
          obtain ⟨before, item, after, rfl, fine, bad⟩ := ih.mp others
          exact ⟨first :: before, item, after, rfl,
            List.forall_mem_cons.mpr ⟨⟨good, checked⟩, fine⟩, bad⟩
    · rintro ⟨before, item, after, split, fine, bad⟩
      cases before with
      | nil =>
        obtain ⟨rfl, rfl⟩ := List.cons.inj split
        rw [bad]
        rfl
      | cons head before =>
        obtain ⟨rfl, rfl⟩ := List.cons.inj split
        obtain ⟨⟨good, checked⟩, fine⟩ := List.forall_mem_cons.mp fine
        rw [checked, ih.mpr ⟨before, item, after, rfl, fine, bad⟩]
        rfl

theorem ofTable_eq_error {table : List (Value × Value)} {error : RegistryError} :
    ofTable table = .error error ↔ table.mapM checkEntry = .error error := by
  rw [ofTable]
  cases table.mapM checkEntry with
  | ok texts =>
    constructor <;>
    · intro same
      cases same
  | error problem =>
    constructor <;>
    · intro same
      cases same
      rfl

/-- **A table is refused for the first of its entries that is not good.** -/
theorem ofTable_eq_error_iff {table : List (Value × Value)} {error : RegistryError} :
    ofTable table = .error error ↔ IsRefusedFor PassesForName table error := by
  rw [ofTable_eq_error, mapM_eq_error_iff]
  simp only [exists_checkEntry_eq_ok_iff, checkEntry_eq_error_iff]
  rfl

/-- A fragment that is no text comes before a name that is no pattern name. -/
example : ofTable [(.text "A".toList, .int 1), (.text "b".toList, .text [])] =
    .error (.fragmentNotText "A".toList) := rfl

theorem not_refused {accepts : Text → Prop} {table : List (Value × Value)} {error : RegistryError}
    (good : ∀ entry ∈ table, EntryOf accepts entry) : ¬ IsRefusedFor accepts table error := by
  rintro ⟨before, entry, after, rfl, -, offends⟩
  exact offends.not_entryOf (good entry (List.mem_append_right _ List.mem_cons_self))

theorem judgedBy_passesForName (table : List (Value × Value)) : JudgedBy PassesForName table := by
  refine ⟨⟨?_, ?_⟩, fun error => ofTable_eq_error_iff⟩
  · rintro ⟨registry, made⟩ entry member
    obtain ⟨texts, rfl, accepted, -⟩ := ofTable_eq_ok_iff.mp made
    obtain ⟨text, known, rfl⟩ := List.mem_map.mp member
    exact ⟨text.1, text.2, rfl, acceptsName_iff.mp (accepted text.1 (List.mem_map_of_mem known))⟩
  · intro good
    cases judged : ofTable table with
    | ok registry => exact ⟨registry, rfl⟩
    | error error => exact absurd (ofTable_eq_error_iff.mp judged) (not_refused good)

/-! ### References -/

/-- A reference to a name without a tag. -/
def reference (name : Text) : Text :=
  '%' :: '{' :: name ++ ['}']

theorem spell_untagged (name : Text) : Token.spell ⟨name, none⟩ = reference name := by
  simp [Token.spell, reference]

/-- A token without a tag becomes the fragment of its name. -/
theorem substitute_reference (registry : Registry) {name : Text} (named : IsPatternName name) :
    substitute registry (reference name) = registry.fragment name := by
  have wellFormed : Token.WellFormed ⟨name, none⟩ :=
    ⟨named.1, fun char member => (isNameChar_iff char).mpr (named.2 char member), nofun⟩
  have alone : pieces (reference name) = [.token ⟨name, none⟩] := by
    have first := pieces_spell_append wellFormed []
    rw [List.append_nil, spell_untagged] at first
    exact first
  rw [substitute, alone]
  exact List.append_nil _

/-- The name of a token is a pattern name. -/
theorem isPatternName_of_token {text : Text} {token : Token} (member : .token token ∈ pieces text) :
    IsPatternName token.name := by
  obtain ⟨wellFormed, -⟩ := token_mem_pieces_iff.mp member
  exact ⟨wellFormed.name_ne_nil,
    fun char inName => (isNameChar_iff char).mp (wellFormed.name_chars char inName)⟩

theorem passesForName_of_get? {table : List (Value × Value)} {registry : Registry}
    {name fragment : Text}
    (made : ofTable table = .ok registry) (found : registry.get? name = some fragment) :
    PassesForName name := by
  obtain ⟨texts, -, accepted, rfl⟩ := ofTable_eq_ok_iff.mp made
  have known : name ∈ Entries.keys (Entries.extend Builtin.entries texts) :=
    List.mem_map_of_mem (Entries.mem_of_get? found)
  rw [← acceptsName_iff]
  rcases Entries.mem_keys_extend known with builtin | layer
  · exact acceptsName_of_builtin builtin
  · exact accepted name layer

/-! ### Names with a line break -/

/-- Judging a table comes to a key that is a pattern name with a line break behind it. -/
def MeetsBreak (table : List (Value × Value)) : Prop :=
  ∃ before entry after stem, table = before ++ entry :: after ∧
    (∀ fine ∈ before, EntryOf PassesForName fine) ∧ IsPatternName stem ∧
      entry.1 = .text (stem ++ ['\n'])

section Accepts

variable {accepts other : Text → Prop} {entry : Value × Value} {error : RegistryError}
  (alike : ∀ name, entry.1 = .text name → (accepts name ↔ other name))

include alike

theorem entryOf_congr (good : EntryOf accepts entry) : EntryOf other entry := by
  obtain ⟨name, fragment, rfl, accepted⟩ := good
  exact ⟨name, fragment, rfl, (alike name rfl).mp accepted⟩

theorem offends_congr (offends : Offends accepts entry error) : Offends other entry error := by
  cases offends with
  | name refused => exact .name fun name same => mt (alike name same).mpr (refused name same)
  | fragment accepted noText => exact .fragment ((alike _ rfl).mp accepted) noText

end Accepts

section NoBreak

variable {table before after : List (Value × Value)} {entry : Value × Value}

/-- As long as no such key has come up, what passes for a name is a pattern name. -/
theorem passes_iff_of_not_meetsBreak (never : ¬ MeetsBreak table)
    (split : table = before ++ entry :: after)
    (fine : ∀ fine ∈ before, EntryOf PassesForName fine) (name : Text) (key : entry.1 = .text name) :
    PassesForName name ↔ IsPatternName name := by
  constructor
  · rintro ⟨stem, named, rfl | rfl⟩
    · exact named
    · exact absurd ⟨before, entry, after, stem, split, fine, named, key⟩ never
  · intro named
    exact ⟨name, named, .inl rfl⟩

theorem entryOf_isPatternName (never : ¬ MeetsBreak table) (split : table = before ++ after)
    (fine : ∀ fine ∈ before, EntryOf PassesForName fine) :
    ∀ fine ∈ before, EntryOf IsPatternName fine := by
  intro entry member
  obtain ⟨front, back, rfl⟩ := List.append_of_mem member
  have place : table = front ++ entry :: (back ++ after) := by
    rw [split, List.append_assoc, List.cons_append]
  have earlier : ∀ fine ∈ front, EntryOf PassesForName fine := fun one inFront =>
    fine one (List.mem_append_left _ inFront)
  exact entryOf_congr (passes_iff_of_not_meetsBreak never place earlier) (fine entry member)

theorem EntryOf.passes (good : EntryOf IsPatternName entry) : EntryOf PassesForName entry := by
  obtain ⟨name, fragment, rfl, named⟩ := good
  exact ⟨name, fragment, rfl, name, named, .inl rfl⟩

/-- An item that is not in front of another one comes after it or is the other one. -/
theorem mem_or_eq_of_split {front back : List (Value × Value)} {first : Value × Value}
    (split : before ++ entry :: after = front ++ first :: back) (absent : entry ∉ front) :
    first ∈ before ∨ first = entry := by
  rcases List.append_eq_append_iff.mp split with ⟨more, rfl, rest⟩ | ⟨more, rfl, rest⟩
  · cases more with
    | nil => exact .inr (List.cons.inj rest).1.symm
    | cons item more =>
      obtain ⟨rfl, -⟩ := List.cons.inj rest
      exact absurd (List.mem_append_right _ List.mem_cons_self) absent
  · cases more with
    | nil => exact .inr (List.cons.inj rest).1
    | cons item more =>
      obtain ⟨rfl, -⟩ := List.cons.inj rest
      exact .inl (List.mem_append_right _ List.mem_cons_self)

end NoBreak

/-- Pattern names are all there is to a table just where judging it comes to no name with a line
break. -/
theorem judgedBy_isPatternName_iff (table : List (Value × Value)) :
    JudgedBy IsPatternName table ↔ ¬ MeetsBreak table := by
  constructor
  · rintro ⟨accepted, refused⟩ ⟨before, entry, after, stem, split, fine, named, key⟩
    have bad : ¬ EntryOf IsPatternName entry := by
      rintro ⟨name, fragment, rfl, isName⟩
      obtain rfl := Value.text.inj key
      exact IsPatternName.not_break _ isName
    cases judged : ofTable table with
    | ok registry =>
      have all := accepted.mp ⟨registry, judged⟩
      exact bad (all entry (split ▸ List.mem_append_right _ List.mem_cons_self))
    | error error =>
      obtain ⟨front, first, back, rfl, good, offends⟩ := (refused error).mp judged
      obtain ⟨_, _, _, -, -, found⟩ := ofTable_eq_error_iff.mp judged
      -- The entry that is named comes no later than the one with the line break, and all is good up
      -- to there.
      rcases mem_or_eq_of_split split.symm fun member => bad (good entry member) with earlier | rfl
      · obtain ⟨name, fragment, rfl, passes⟩ := fine first earlier
        cases offends with
        | name =>
          cases found with
          | name unaccepted => exact unaccepted name rfl passes
        | fragment _ noText => exact noText fragment rfl
      · cases offends with
        | name =>
          cases found with
          | name unaccepted => exact unaccepted _ key ⟨stem, named, .inr rfl⟩
        | fragment isName =>
          cases key
          exact IsPatternName.not_break _ isName
  · intro never
    refine ⟨⟨fun made => ?_, fun good => ?_⟩, fun error => ?_⟩
    · have fine := (judgedBy_passesForName table).accepted.mp made
      exact entryOf_isPatternName never (List.append_nil table).symm fine
    · exact (judgedBy_passesForName table).accepted.mpr fun entry member => (good entry member).passes
    · rw [ofTable_eq_error_iff]
      constructor
      · rintro ⟨before, entry, after, split, fine, offends⟩
        exact ⟨before, entry, after, split, entryOf_isPatternName never split fine,
          offends_congr (passes_iff_of_not_meetsBreak never split fine) offends⟩
      · rintro ⟨before, entry, after, split, good, offends⟩
        have fine : ∀ fine ∈ before, EntryOf PassesForName fine :=
          fun one member => (good one member).passes
        exact ⟨before, entry, after, split, fine,
          offends_congr (fun name key =>
            (passes_iff_of_not_meetsBreak never split fine name key).symm) offends⟩

/-! ### Judging tables -/

/-- **How tables are judged.** Of a table that is accepted every key passes for a name and every
value is a text; another one is refused for the first entry that is not so. Names are pattern names
alone, and so tables are judged by them, unless judging comes to a pattern name with a line break
behind it. A reference to a pattern name that a registry knows becomes its own fragment, and no
token of any text refers to a name with a line break. -/
theorem ofTable_judged (table : List (Value × Value)) :
    JudgedBy PassesForName table ∧ (JudgedBy IsPatternName table ↔ ¬ MeetsBreak table) ∧
      ∀ registry, ofTable table = .ok registry → ∀ name fragment, registry.get? name = some fragment →
        (IsPatternName name ∧ substitute registry (reference name) = fragment) ∨
          ((∃ stem, IsPatternName stem ∧ name = stem ++ ['\n']) ∧
            ∀ text token, .token token ∈ pieces text → token.name ≠ name) := by
  refine ⟨judgedBy_passesForName table, judgedBy_isPatternName_iff table, ?_⟩
  intro registry made name fragment found
  obtain ⟨stem, named, rfl | rfl⟩ := passesForName_of_get? made found
  · refine .inl ⟨named, ?_⟩
    rw [substitute_reference registry named, Registry.fragment, found]
    rfl
  · refine .inr ⟨⟨stem, named, rfl⟩, fun text token member same => ?_⟩
    exact IsPatternName.not_break _ (same ▸ isPatternName_of_token member)

/-- A table whose only key has a line break behind its name. -/
def brokenTable : List (Value × Value) :=
  [(.text "A\n".toList, .text "x".toList)]

/-- It is accepted, though its key is no pattern name, and a reference to the key is no reference. -/
theorem ofTable_lineBreak : ofTable brokenTable = .ok (layered [("A\n".toList, "x".toList)]) ∧
    substitute (layered [("A\n".toList, "x".toList)]) (reference "A\n".toList) =
      reference "A\n".toList ∧
      ¬ JudgedBy IsPatternName brokenTable := by
  have made : ofTable brokenTable = .ok (layered [("A\n".toList, "x".toList)]) := rfl
  refine ⟨made, by decide +kernel, fun judged => ?_⟩
  obtain ⟨name, fragment, same, named⟩ := judged.accepted.mp ⟨_, made⟩ _ List.mem_cons_self
  obtain rfl := Value.text.inj (Prod.mk.inj same).1
  exact IsPatternName.not_break ['A'] named

end Registry

end GrokEvents.Grok
