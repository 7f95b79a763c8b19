/-
**How phrases are read.**

A phrase is read for what it is, whatever groups were met before it. What may go wrong is the names of
its groups alone: each has to be an identifier that no group has yet.

* `Meets`: what reading comes to that meets groups under some names.
* `isRead_of_fine`: rows and choices are read in full.
* `lexemes_text`, `read_text`: the lexemes and the expression of the text of a phrase.
-/

import GrokEvents.Proofs.Expr.Alone

namespace GrokEvents.Expr

open Text

/-! ### Groups met -/

/-- Groups may be opened under these names, one after the other, behind the ones named before. -/
def Nameable (taken : List (Text × Nat)) (names : List Text) : Prop :=
  names.Nodup ∧ ∀ name ∈ names, isIdentifier name = true ∧ name ∉ taken.map Prod.fst

theorem nameable_append_iff {taken : List (Text × Nat)} {first second : List Text} (start : Nat) :
    Nameable taken (first ++ second) ↔
      Nameable taken first ∧ Nameable (taken ++ first.zipIdx start) second := by
  have fresh (name : Text) : name ∉ (taken ++ first.zipIdx start).map Prod.fst ↔
      name ∉ taken.map Prod.fst ∧ name ∉ first := by
    rw [List.map_append, List.zipIdx_map_fst, List.mem_append, not_or]
  constructor
  · rintro ⟨distinct, all⟩
    obtain ⟨one, two, apart⟩ := List.nodup_append.mp distinct
    refine ⟨⟨one, fun name member => all name (List.mem_append_left _ member)⟩, two, ?_⟩
    intro name member
    obtain ⟨identifier, unused⟩ := all name (List.mem_append_right _ member)
    exact ⟨identifier, (fresh name).mpr ⟨unused, fun before => apart name before name member rfl⟩⟩
  · rintro ⟨⟨one, before⟩, two, behind⟩
    refine ⟨List.nodup_append.mpr ⟨one, two, ?_⟩, ?_⟩
    · rintro name inFirst other inSecond rfl
      exact ((fresh name).mp (behind name inSecond).2).2 inFirst
    · intro name member
      rcases List.mem_append.mp member with inFirst | inSecond
      · exact before name inFirst
      · exact ⟨(behind name inSecond).1, ((fresh name).mp (behind name inSecond).2).1⟩

/-- Between two ledgers, groups under these names were opened and closed, and nothing else was met. -/
structure Met (before : Ledger) (names : List Text) (more : List Lexeme) (after : Ledger) : Prop where
  rest : after.rest = more
  groups : after.widths.length = before.widths.length + names.length
  names : after.names = before.names ++ names.zipIdx (before.widths.length + 1)
  conditions : after.conditions = before.conditions
  varies : after.varies = before.varies

/-- Moving on meets no group. -/
theorem Met.moved (ledger : Ledger) (more : List Lexeme) :
    Met ledger [] more { ledger with rest := more } :=
  ⟨rfl, rfl, (List.append_nil _).symm, rfl, rfl⟩

theorem Met.here {ledger : Ledger} {more : List Lexeme} (stands : ledger.rest = more) :
    Met ledger [] more ledger :=
  stands ▸ .moved ledger ledger.rest

theorem Met.trans {first second third : Ledger} {one two : List Text} {middle more : List Lexeme}
    (met : Met first one middle second) (next : Met second two more third) :
    Met first (one ++ two) more third where
  rest := next.rest
  groups := by rw [next.groups, met.groups, List.length_append, Nat.add_assoc]
  names := by
    rw [next.names, met.names, met.groups, List.append_assoc, List.zipIdx_append]
    congr 3
    omega
  conditions := next.conditions.trans met.conditions
  varies := next.varies.trans met.varies

/-- What reading comes to that meets groups under these names: a value, and the ledger behind the
groups, where the names may be given to them, and a malformed text otherwise. -/
def Meets {Value : Type} (before : Ledger) (names : List Text) (more : List Lexeme) (value : Value)
    (outcome : Except Flaw (Value × Ledger)) : Prop :=
  (Nameable before.names names → ∃ after, outcome = .ok (value, after) ∧ Met before names more after) ∧
    (¬ Nameable before.names names → ∃ cause, outcome = malformed cause)

namespace Meets

variable {First Second : Type} {before opened : Ledger} {names others : List Text}
  {middle more : List Lexeme} {one : First} {two : Second}

/-- Reading that meets no group. -/
theorem settled (value : First) {after : Ledger} (met : Met before [] more after) :
    Meets before [] more value (.ok (value, after)) :=
  ⟨fun _ => ⟨after, rfl, met⟩, fun refused => absurd ⟨List.nodup_nil, nofun⟩ refused⟩

theorem bind {first : Except Flaw (First × Ledger)}
    {next : First × Ledger → Except Flaw (Second × Ledger)}
    (meets : Meets before names middle one first)
    (onward : ∀ after, Met before names middle after →
      Meets after others more two (next (one, after))) :
    Meets before (names ++ others) more two (first >>= next) := by
  have split : Nameable before.names (names ++ others) ↔ _ :=
    nameable_append_iff (before.widths.length + 1)
  by_cases nameable : Nameable before.names names
  · obtain ⟨after, rfl, met⟩ := meets.1 nameable
    have here : Nameable before.names (names ++ others) ↔ Nameable after.names others := by
      rw [split, met.names]
      exact and_iff_right nameable
    obtain ⟨good, bad⟩ := onward after met
    refine ⟨fun both => ?_, fun refused => bad (mt here.mpr refused)⟩
    obtain ⟨last, isLast, met'⟩ := good (here.mp both)
    exact ⟨last, isLast, met.trans met'⟩
  · obtain ⟨cause, rfl⟩ := meets.2 nameable
    refine ⟨fun both => absurd (split.mp both).1 nameable, fun _ => ⟨cause, rfl⟩⟩

/-- Reading that ends in a value made of what was read. -/
theorem map {first : Except Flaw (First × Ledger)}
    {next : First × Ledger → Except Flaw (Second × Ledger)}
    (meets : Meets before names middle one first)
    (onward : ∀ after, Met before names middle after → Meets after [] more two (next (one, after))) :
    Meets before names more two (first >>= next) :=
  List.append_nil names ▸ meets.bind onward

/-- What was to be read does not matter to what is met. -/
theorem of_rest {start : List Lexeme} {outcome : Except Flaw (First × Ledger)}
    (meets : Meets { before with rest := start } names more one outcome) :
    Meets before names more one outcome := by
  refine ⟨fun nameable => ?_, meets.2⟩
  obtain ⟨after, isAfter, met⟩ := meets.1 nameable
  exact ⟨after, isAfter, met.rest, met.groups, met.names, met.conditions, met.varies⟩

/-- Reading behind the opening of a group under a name. -/
theorem named {name : Text} {outcome : Except Flaw (First × Ledger)}
    (opens : Met before [name] middle opened)
    (refused : ¬ Nameable before.names [name] → ∃ cause, outcome = malformed cause)
    (onward : Nameable before.names [name] → Meets opened names more one outcome) :
    Meets before (name :: names) more one outcome := by
  have split : Nameable before.names ([name] ++ names) ↔ _ :=
    nameable_append_iff (before.widths.length + 1)
  rw [← opens.names, List.singleton_append] at split
  by_cases nameable : Nameable before.names [name]
  · obtain ⟨good, bad⟩ := onward nameable
    refine ⟨fun all => ?_, fun none => bad fun rest => none (split.mpr ⟨nameable, rest⟩)⟩
    obtain ⟨last, isLast, met⟩ := good (split.mp all).2
    exact ⟨last, isLast, opens.trans met⟩
  · exact ⟨fun all => absurd (split.mp all).1 nameable, fun _ => refused nameable⟩

end Meets

/-! ### What ends a row -/

variable {fuel : Nat} {items : List Item} {ledger : Ledger} {rest : List Lexeme}

/-- What follows ends a row. -/
def EndsRow (rest : List Lexeme) : Prop :=
  ∀ lexeme ∈ rest.head?, lexeme = .plain '|' ∨ lexeme = .plain ')'

/-- What follows ends all rows of a choice. -/
def EndsChoice (rest : List Lexeme) : Prop :=
  ∀ lexeme ∈ rest.head?, lexeme = .plain ')'

theorem EndsChoice.row (ends : EndsChoice rest) : EndsRow rest :=
  fun lexeme head => .inr (ends lexeme head)

theorem EndsRow.calm (ends : EndsRow rest) : Calm rest := by
  intro lexeme head
  rcases ends lexeme head with rfl | rfl <;> rfl

theorem calm_spell {row : Phrase .row} (fine : row.isFine = true) {more : List Lexeme}
    (ends : EndsRow more) : Calm (row.spell ++ more) := by
  cases row with
  | empty => exact ends.calm
  | unit atom count rest =>
    obtain ⟨item, isItem, -⟩ := Option.any_eq_true .. |>.mp (Bool.and_eq_true_iff.mp fine).1
    rw [Phrase.spell, List.append_assoc, List.append_assoc]
    exact calm_atom isItem _
  | group name body count rest =>
    intro lexeme head
    obtain rfl : Lexeme.plain '(' = lexeme := Option.some.inj head
    rfl

theorem readRow_done (ends : EndsRow ledger.rest) (scope : Scope) :
    readRow (fuel + 1) scope items ledger = .ok (.ofList (items.reverse.map Item.node), ledger) := by
  obtain ⟨rest, widths, names, conditions, varies⟩ := ledger
  cases rest with
  | nil => rfl
  | cons lexeme rest =>
    rcases ends lexeme rfl with rfl | rfl <;> rfl

/-! ### Groups -/

variable {names : List Text} {more inside : List Lexeme} {body : Node} {name : Text}

/-- A closing parenthesis after what was met. -/
theorem close_of_met {after : Ledger} (met : Met ledger names (.plain ')' :: more) after) :
    after.close = .ok { after with rest := more } := by
  rw [Ledger.close, met.rest]
  rfl

/-- A group that captures nothing. -/
theorem meets_plainGroup (meets : Meets ledger names (.plain ')' :: more) body
      (readAlternatives fuel ⟨{}, none⟩ { ledger with rest := inside })) :
    Meets ledger names more (some ⟨body, .repeatable⟩) (readGroup (fuel + 1) ⟨{}, none⟩
      { ledger with rest := .plain '?' :: .plain ':' :: inside }) := by
  show Meets ledger names more _ (readAlternatives fuel ⟨{}, none⟩ _ >>= _)
  refine meets.map fun after met => ?_
  dsimp only
  rw [close_of_met met]
  exact .settled _ (.moved after more)

theorem readName_plain (absent : '>' ∉ name) {before : Text} (nonempty : before.reverse ++ name ≠ [])
    (rest : List Lexeme) : readName '>' before (name.map .plain ++ .plain '>' :: rest) =
      .ok (before.reverse ++ name, rest) := by
  induction name generalizing before with
  | nil =>
    rw [List.append_nil] at nonempty ⊢
    have some : before.isEmpty = false := by simpa using nonempty
    simp [readName, some]
  | cons char name ih =>
    have other : char ≠ '>' := fun same => absent (same ▸ List.mem_cons_self)
    rw [List.map_cons, List.cons_append, readName, if_neg other,
      ih (fun member => absent (List.mem_cons_of_mem _ member)) (by simp)]
    simp

theorem readHeader_named (word : name.all isWordChar = true) (nonempty : name ≠ []) :
    readHeader {} (.plain '?' :: .plain 'P' :: .plain '<' ::
      (name.map .plain ++ .plain '>' :: rest)) =
        if isIdentifier name then .ok (.capture (some name), rest) else malformed .badName := by
  have absent : '>' ∉ name := by
    intro member
    cases List.all_eq_true.mp word '>' member
  have isName : readName '>' [] (name.map .plain ++ .plain '>' :: rest) = .ok (name, rest) :=
    readName_plain absent (by simpa using nonempty) rest
  show (readName '>' [] _ >>= _) = _
  rw [isName]
  rfl

/-- A group opens under a name just where no group before it has the name. -/
theorem openGroup_named (ledger : Ledger) (name : Text) :
    ledger.openGroup (some name) =
      if name ∈ ledger.names.map Prod.fst then malformed .nameTaken
      else .ok (ledger.widths.length + 1, { ledger with
        widths := ledger.widths ++ [none]
        names := ledger.names ++ [(name, ledger.widths.length + 1)] }) := by
  have taken : (ledger.names.any fun entry => entry.1 = name) = true ↔
      name ∈ ledger.names.map Prod.fst := by
    simp [List.any_eq_true]
  unfold Ledger.openGroup
  dsimp only
  simp only [taken]

/-- A group under a name. -/
theorem meets_namedGroup (word : name.all isWordChar = true) (nonempty : name ≠ []) {opened : Ledger}
    (isOpened : opened = { ledger with
      rest := inside
      widths := ledger.widths ++ [none]
      names := ledger.names ++ [(name, ledger.widths.length + 1)] })
    (meets : Meets opened names (.plain ')' :: more) body (readAlternatives fuel ⟨{}, none⟩ opened)) :
    Meets ledger (name :: names) more (some ⟨.capture (ledger.widths.length + 1) body, .repeatable⟩)
      (readGroup (fuel + 1) ⟨{}, none⟩ { ledger with
        rest := .plain '?' :: .plain 'P' :: .plain '<' ::
          (name.map .plain ++ .plain '>' :: inside) }) := by
  have opens : Met ledger [name] inside opened := by
    rw [isOpened]
    exact ⟨rfl, List.length_append, rfl, rfl, rfl⟩
  have split : Nameable ledger.names [name] ↔
      isIdentifier name = true ∧ name ∉ ledger.names.map Prod.fst := by
    simp [Nameable]
  rw [readGroup]
  dsimp only
  rw [readHeader_named word nonempty]
  refine .named opens (fun refused => ?_) (fun nameable => ?_)
  · rw [split, not_and, Classical.not_not] at refused
    split
    · rename_i identifier
      show ∃ cause, (Ledger.openGroup _ _ >>= _) = _
      rw [openGroup_named, if_pos (refused identifier)]
      exact ⟨_, rfl⟩
    · exact ⟨_, rfl⟩
  · obtain ⟨identifier, free⟩ := split.mp nameable
    rw [if_pos identifier]
    show Meets opened names more _ (Ledger.openGroup _ _ >>= _)
    rw [openGroup_named, if_neg free]
    show Meets opened names more _ (readAlternatives fuel ⟨{}, none⟩ _ >>= _)
    rw [← isOpened]
    refine meets.map fun after met => ?_
    dsimp only
    rw [close_of_met met]
    exact .settled _ ⟨rfl, List.length_set, (List.append_nil _).symm, rfl, rfl⟩

/-! ### Rows and choices -/

/-- A phrase is read in full, wherever it stands and whatever was met before it. -/
def Phrase.IsRead : {tier : Tier} → Phrase tier → Prop
  | .row, row => ∀ (fuel : Nat) (items : List Item) (ledger : Ledger) (more : List Lexeme),
    3 * row.spell.length < fuel → EndsRow more → ledger.rest = row.spell ++ more →
      Meets ledger row.names more
        (.ofList (items.reverse.map Item.node ++ row.nodes ledger.widths.length))
        (readRow fuel ⟨{}, none⟩ items ledger)
  | .choice, choice => ∀ (fuel : Nat) (ledger : Ledger) (more : List Lexeme),
    3 * choice.spell.length + 1 < fuel → EndsChoice more → ledger.rest = choice.spell ++ more →
      Meets ledger choice.names more (.ofList (choice.nodes ledger.widths.length))
        (readAlternatives fuel ⟨{}, none⟩ ledger)

/-- A row behind an item that may have a quantifier. -/
theorem meets_counted {row : Phrase .row} (isRead : row.IsRead) (fine : row.isFine = true) (item : Item)
    {count : Option Count} (fits : Count.fits item.form count = true)
    (enough : 3 * ((Count.spellAny count).length + row.spell.length) < fuel) (ends : EndsRow more)
    (stands : ledger.rest = Count.spellAny count ++ (row.spell ++ more)) :
    Meets ledger row.names more
      (.ofList (items.reverse.map Item.node ++
        Count.wrap count item.node :: row.nodes ledger.widths.length))
      (readRow fuel ⟨{}, none⟩ (item :: items) ledger) := by
  cases count with
  | none =>
    have whole := isRead fuel (item :: items) ledger more (by omega) ends stands
    rw [List.reverse_cons, List.map_append, List.append_assoc] at whole
    exact whole
  | some count =>
    obtain ⟨repeatable, isCount⟩ : item.form = .repeatable ∧ count.bounds.rounds?.isSome = true := by
      simpa [Count.fits] using fits
    have long := count.length_spell_pos
    have enough : 3 * (count.spell.length + row.spell.length) < fuel := enough
    obtain ⟨fuel, rfl⟩ := Nat.exists_eq_add_one.mpr (Nat.zero_lt_of_lt enough)
    obtain ⟨node, form⟩ := item
    obtain rfl : form = .repeatable := repeatable
    rw [readRow_count node isCount stands (calm_spell fine ends)]
    have whole := isRead fuel (⟨count.loop node, .repeated⟩ :: items)
      { ledger with rest := row.spell ++ more } more (by omega) ends rfl
    rw [List.reverse_cons, List.map_append, List.append_assoc] at whole
    exact whole.of_rest

/-- A group in a row, and what stands behind it. -/
theorem meets_group {row : Phrase .row} (isRead : row.IsRead) (fine : row.isFine = true) {node : Node}
    {count : Option Count} (fits : Count.fits .repeatable count = true)
    (enough : 3 * ((Count.spellAny count).length + row.spell.length) < fuel) (ends : EndsRow more)
    (stands : ledger.rest = .plain '(' :: inside)
    (group : Meets ledger names (Count.spellAny count ++ (row.spell ++ more))
      (some ⟨node, .repeatable⟩) (readGroup fuel ⟨{}, none⟩ { ledger with rest := inside })) :
    Meets ledger (names ++ row.names) more
      (.ofList (items.reverse.map Item.node ++
        Count.wrap count node :: row.nodes (ledger.widths.length + names.length)))
      (readRow (fuel + 1) ⟨{}, none⟩ items ledger) := by
  have step : readRow (fuel + 1) ⟨{}, none⟩ items ledger =
      readGroup fuel ⟨{}, none⟩ { ledger with rest := inside } >>= fun result =>
        readRow fuel ⟨{}, none⟩ (result.1.toList ++ items) result.2 := by
    rw [readRow, stands]
    rfl
  rw [step]
  refine group.bind fun after met => ?_
  rw [← met.groups]
  exact meets_counted isRead fine ⟨node, .repeatable⟩ fits enough ends met.rest

/-- **A phrase is read in full**, wherever it stands and whatever was met before it. -/
theorem isRead_of_fine {tier : Tier} {phrase : Phrase tier} (fine : phrase.isFine = true) :
    phrase.IsRead := by
  induction phrase with
  | empty =>
    intro fuel items ledger more enough ends stands
    have stands : ledger.rest = more := stands
    obtain ⟨fuel, rfl⟩ := Nat.exists_eq_add_one.mpr (Nat.zero_lt_of_lt enough)
    rw [readRow_done (stands ▸ ends), Phrase.nodes, List.append_nil]
    exact .settled _ (.here stands)
  | unit atom count rest ih =>
    intro fuel items ledger more enough ends stands
    obtain ⟨isUnit, fineRest⟩ := Bool.and_eq_true_iff.mp fine
    obtain ⟨item, isItem, fits⟩ := Option.any_eq_true .. |>.mp isUnit
    have long := atom.length_spell_pos
    simp only [Phrase.spell, List.length_append, List.append_assoc] at enough stands
    obtain ⟨fuel, rfl⟩ := Nat.exists_eq_add_one.mpr (Nat.zero_lt_of_lt enough)
    rw [readRow_atom isItem stands, Phrase.nodes, isItem]
    exact (meets_counted (ih fineRest) fineRest item fits (by omega) ends rfl).of_rest
  | group name body count rest ihBody ihRest =>
    intro fuel items ledger more enough ends stands
    simp only [Phrase.isFine, Bool.and_eq_true] at fine
    obtain ⟨⟨⟨isName, fits⟩, fineBody⟩, fineRest⟩ := fine
    simp only [Phrase.spell, List.length_append, List.length_cons] at enough
    obtain ⟨fuel, rfl⟩ := Nat.exists_eq_add_one.mpr (Nat.zero_lt_of_lt enough)
    obtain ⟨fuel, rfl⟩ : ∃ less, fuel = less + 1 := Nat.exists_eq_add_one.mpr (by omega)
    have closes : EndsChoice (.plain ')' :: (Count.spellAny count ++ (rest.spell ++ more))) := by
      intro lexeme head
      exact (Option.some.inj head).symm
    cases name with
    | none =>
      have stands : ledger.rest = .plain '(' :: .plain '?' :: .plain ':' ::
          (body.spell ++ .plain ')' :: (Count.spellAny count ++ (rest.spell ++ more))) := by
        rw [stands]
        simp [Phrase.spell, spellHeader]
      exact meets_group (ihRest fineRest) fineRest fits (by omega) ends stands
        (meets_plainGroup (ihBody fineBody fuel _ _ (by omega) closes rfl).of_rest)
    | some name =>
      have stands : ledger.rest = .plain '(' :: .plain '?' :: .plain 'P' :: .plain '<' ::
          (name.map .plain ++ .plain '>' ::
            (body.spell ++ .plain ')' :: (Count.spellAny count ++ (rest.spell ++ more)))) := by
        rw [stands]
        simp [Phrase.spell, spellHeader]
      obtain ⟨word, nonempty⟩ : name.all isWordChar = true ∧ name ≠ [] := by simpa using isName
      have inner := ihBody fineBody fuel { ledger with
        rest := body.spell ++ .plain ')' :: (Count.spellAny count ++ (rest.spell ++ more))
        widths := ledger.widths ++ [none]
        names := ledger.names ++ [(name, ledger.widths.length + 1)] } _ (by omega) closes rfl
      have deeper : (ledger.widths ++ [none]).length = ledger.widths.length + 1 := List.length_append
      rw [deeper] at inner
      have behind : ledger.widths.length + (name :: body.names).length =
          ledger.widths.length + 1 + body.names.length := by
        rw [List.length_cons]
        omega
      show Meets ledger (name :: body.names ++ rest.names) more _ _
      rw [Phrase.nodes, ← behind]
      exact meets_group (ihRest fineRest) fineRest fits (by omega) ends stands
        (meets_namedGroup word nonempty rfl inner)
  | only row ih =>
    intro fuel ledger more enough ends stands
    obtain ⟨fuel, rfl⟩ := Nat.exists_eq_add_one.mpr (Nat.zero_lt_of_lt enough)
    have short : 3 * row.spell.length < fuel := Nat.lt_of_succ_lt_succ enough
    show Meets ledger row.names more _ (readRow fuel ⟨{}, none⟩ [] ledger >>= _)
    refine (ih fine fuel [] ledger more short ends.row stands).map fun after met => ?_
    dsimp only
    split
    · rename_i rest bar
      cases ends (.plain '|') (by rw [← met.rest, bar]; rfl)
    · exact .settled _ (.here met.rest)
  | either first others ihFirst ihOthers =>
    intro fuel ledger more enough ends stands
    obtain ⟨fineFirst, fineOthers⟩ := Bool.and_eq_true_iff.mp fine
    simp only [Phrase.spell, List.length_append, List.length_cons, List.append_assoc,
      List.cons_append] at enough stands
    obtain ⟨fuel, rfl⟩ := Nat.exists_eq_add_one.mpr (Nat.zero_lt_of_lt enough)
    show Meets ledger (first.names ++ others.names) more _ (readRow fuel ⟨{}, none⟩ [] ledger >>= _)
    have bar : EndsRow (.plain '|' :: (others.spell ++ more)) := by
      intro lexeme head
      exact .inl (Option.some.inj head).symm
    refine (ihFirst fineFirst fuel [] ledger _ (by omega) bar stands).bind fun after met => ?_
    have inner := ihOthers fineOthers fuel { after with rest := others.spell ++ more } more (by omega)
      ends rfl
    dsimp only
    rw [met.rest]
    show Meets after others.names more _ (readAlternatives fuel ⟨{}, none⟩ _ >>= _)
    refine inner.of_rest.map fun last met' => ?_
    rw [Phrase.nodes, ← met.groups]
    exact .settled _ (.here met'.rest)

/-! ### The expression of a text -/

theorem lexemes_plain {char : Char} (other : char ≠ '\\') (rest : Text) :
    lexemes (char :: rest) = .plain char :: lexemes rest := by
  cases rest with
  | nil => simp [lexemes, other]
  | cons next rest => simp [lexemes, other]

/-- Whether a lexeme is one that its own text has, and asks for no name. -/
def Lexeme.isRegular : Lexeme → Bool
  | .plain char => char != '\\'
  | .escape char => char != 'N'
  | .named .. | .dangling => false

/-- The lexemes of what regular lexemes spell. -/
theorem lexemes_flatMap_spell {row : List Lexeme} (regular : row.all Lexeme.isRegular = true) :
    lexemes (row.flatMap Lexeme.spell) = row := by
  induction row with
  | nil => rfl
  | cons lexeme row ih =>
    obtain ⟨first, others⟩ := Bool.and_eq_true_iff.mp regular
    have rest := ih others
    rw [List.flatMap_cons]
    cases lexeme with
    | plain char =>
      have other : char ≠ '\\' := bne_iff_ne.mp first
      rw [Lexeme.spell, List.singleton_append, lexemes_plain other, rest]
    | escape char =>
      show Lexeme.escape char :: lexemes (row.flatMap Lexeme.spell) = _
      rw [rest]
    | named name char => cases first
    | dangling => cases first

theorem unnamed_of_regular {row : List Lexeme} (regular : row.all Lexeme.isRegular = true) :
    .escape 'N' ∉ row :=
  fun member => nomatch List.all_eq_true.mp regular _ member

theorem regular_plain {text : Text} (absent : '\\' ∉ text) :
    (text.map Lexeme.plain).all Lexeme.isRegular = true := by
  rw [List.all_map, List.all_eq_true]
  intro char member
  exact bne_iff_ne.mpr fun same => absent (same ▸ member)

theorem regular_atom {atom : Atom} {item : Item} (isItem : atom.item? = some item) :
    atom.spell.all Lexeme.isRegular = true := by
  cases atom with
  | plain char =>
    have other := (ne_of_not_reserved (item_plain isItem).1).2.2.2.2.2.2.2.2
    simp [Atom.spell, Lexeme.isRegular, other]
  | escape char =>
    have other : char ≠ 'N' := by
      rintro rfl
      cases isItem
    simp [Atom.spell, Lexeme.isRegular, other]
  | set inside =>
    have alone := List.all_eq_true.mp (item_set isItem).1
    have inner : inside.all Lexeme.isRegular = true := by
      rw [List.all_eq_true]
      intro lexeme member
      cases lexeme with
      | plain char => exact alone _ member
      | escape char =>
        refine bne_iff_ne.mpr ?_
        rintro rfl
        cases alone _ member
      | named name char => cases alone _ member
      | dangling => cases alone _ member
    rw [Atom.spell, List.all_cons, inner]
    rfl

theorem regular_count {form : Form} {count : Option Count} (fits : Count.fits form count = true) :
    (Count.spellAny count).all Lexeme.isRegular = true := by
  cases count with
  | none => rfl
  | some count =>
    obtain ⟨bounds, isLazy⟩ := count
    have isSome : bounds.rounds?.isSome = true := (Bool.and_eq_true_iff.mp fits).2
    have behind : (if isLazy then [Lexeme.plain '?'] else []).all Lexeme.isRegular = true := by
      cases isLazy <;> rfl
    have before : bounds.spell.all Lexeme.isRegular = true := by
      cases bounds with
      | any => rfl
      | several => rfl
      | optional => rfl
      | braces least most =>
        obtain ⟨rounds, isRounds⟩ := Option.isSome_iff_exists.mp isSome
        obtain ⟨digits, more, -, -⟩ := Bounds.rounds?_braces isRounds
        have one : '\\' ∉ least := fun member => nomatch List.all_eq_true.mp digits _ member
        have two : '\\' ∉ (most.map (',' :: ·)).getD [] := by
          cases most with
          | none => exact List.not_mem_nil
          | some most =>
            intro member
            rcases List.mem_cons.mp member with same | inside
            · cases same
            · cases List.all_eq_true.mp more _ inside
        rw [Bounds.spell, List.all_cons, regular_plain (by simp [one, two])]
        rfl
    show (Count.spell _).all Lexeme.isRegular = true
    rw [Count.spell, List.all_append, before, behind]
    rfl

theorem regular_header {name : Option Text}
    (isName : name.all (fun name => name.all isWordChar && !name.isEmpty) = true) :
    (spellHeader name).all Lexeme.isRegular = true := by
  cases name with
  | none => rfl
  | some name =>
    have word : name.all isWordChar = true := (Bool.and_eq_true_iff.mp isName).1
    have absent : '\\' ∉ name := fun member => nomatch List.all_eq_true.mp word _ member
    rw [spellHeader, List.all_append, List.all_cons, List.all_cons, regular_plain absent]
    rfl

theorem regular_spell {tier : Tier} {phrase : Phrase tier} (fine : phrase.isFine = true) :
    phrase.spell.all Lexeme.isRegular = true := by
  induction phrase with
  | empty => rfl
  | unit atom count rest ih =>
    obtain ⟨isUnit, fineRest⟩ := Bool.and_eq_true_iff.mp fine
    obtain ⟨item, isItem, fits⟩ := Option.any_eq_true .. |>.mp isUnit
    rw [Phrase.spell, List.all_append, List.all_append, regular_atom isItem, regular_count fits,
      ih fineRest]
    rfl
  | group name body count rest ihBody ihRest =>
    simp only [Phrase.isFine, Bool.and_eq_true] at fine
    obtain ⟨⟨⟨isName, fits⟩, fineBody⟩, fineRest⟩ := fine
    simp only [Phrase.spell, List.all_append, List.all_cons, regular_header isName, ihBody fineBody,
      regular_count fits, ihRest fineRest]
    rfl
  | only row ih => exact ih fine
  | either first others ihFirst ihOthers =>
    obtain ⟨fineFirst, fineOthers⟩ := Bool.and_eq_true_iff.mp fine
    rw [Phrase.spell, List.all_append, List.all_cons, ihFirst fineFirst, ihOthers fineOthers]
    rfl

/-- The lexemes of the text of a phrase are those that it is spelled with. -/
theorem lexemes_text {tier : Tier} {phrase : Phrase tier} (fine : phrase.isFine = true) :
    lexemes phrase.text = phrase.spell :=
  lexemes_flatMap_spell (regular_spell fine)

/-- The modes do not change at the start of a row. -/
theorem readOpening_spell {row : Phrase .row} (fine : row.isFine = true) (fuel : Nat) :
    readOpening (fuel + 1) {} false row.spell = .ok ({}, false, row.spell) := by
  cases row with
  | empty => rfl
  | unit atom count rest =>
    obtain ⟨isUnit, -⟩ := Bool.and_eq_true_iff.mp fine
    obtain ⟨item, isItem, -⟩ := Option.any_eq_true .. |>.mp isUnit
    cases atom with
    | plain char =>
      have other := (ne_of_not_reserved (item_plain isItem).1).1
      rw [Phrase.spell, Atom.spell, List.append_assoc, List.singleton_append, readOpening]
      · rfl
      · exact fun _ _ same => absurd same other
      · exact fun _ _ _ same => absurd same other
    | escape char => rfl
    | set inside => rfl
  | group name body count rest =>
    cases name with
    | none => rfl
    | some name => rfl

/-- **The expression of the text of a row.** Its groups are the named ones, in the order of their
opening. There is one just where all names are identifiers and no two of them are the same. -/
theorem read_text [CharacterNames] {row : Phrase .row} (fine : row.isFine = true) :
    (Nameable [] row.names →
      read row.text = .ok ⟨.ofList (row.nodes 0), row.names.length, row.names.zipIdx 1⟩) ∧
        (¬ Nameable [] row.names → ∃ cause, read row.text = malformed cause) := by
  have fine' : (Phrase.only row).isFine = true := fine
  have enough : 3 * (Phrase.only row).spell.length + 1 < 3 * row.spell.length + 4 :=
    Nat.add_lt_add_left (by decide) _
  have stands : row.spell = (Phrase.only row).spell ++ [] := (List.append_nil _).symm
  obtain ⟨good, bad⟩ := isRead_of_fine fine' (3 * row.spell.length + 4) { rest := row.spell } []
    enough nofun stands
  have unnamed : .escape 'N' ∉ lexemes row.text := by
    rw [lexemes_text fine]
    exact unnamed_of_regular (regular_spell fine)
  rw [read_of_unnamed unnamed, readLexemes, lexemes_text fine]
  dsimp only
  rw [readOpening_spell fine]
  constructor
  · intro nameable
    obtain ⟨after, isAfter, met⟩ := good nameable
    dsimp only [bind, Except.bind]
    rw [isAfter]
    dsimp only
    rw [met.rest, met.conditions, met.varies, met.groups, met.names]
    simp [pure, Except.pure, Phrase.names, Phrase.nodes]
  · intro refused
    obtain ⟨cause, isRefused⟩ := bad refused
    refine ⟨cause, ?_⟩
    dsimp only [bind, Except.bind]
    rw [isRefused]
    rfl

end GrokEvents.Expr
