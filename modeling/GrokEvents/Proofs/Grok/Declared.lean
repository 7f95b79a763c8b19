/-
**Groups are declared.**

A pass opens a named group for each field that it declares and leaves the named groups that stand
there. Over the built-in table it opens no other one: the parentheses of the fragments open groups
without names, and what stands in the place of a token neither begins nor ends like the rest of an
opener. Whatever a source is made of, its expansion opens just the groups of the source and those
that are declared.

* `occurrences`: how many times a part stands in a text.
* `IsGroupName`: the names that a group or a field can have.
* `occurrences_substitute`: the openers of a name before and after a pass.
* `occurrences_expandFrom`, `occurrences_expand`: the openers of a name in a source and in its
  expansion.
* `match_declared`: what a pattern matches has names that it has declared.
-/

import GrokEvents.Proofs.Grok.Budget
import GrokEvents.Proofs.Grok.Table
import GrokEvents.Proofs.Filter.Provenance

namespace GrokEvents.Grok

open Text Expr

/-! ### Occurrences -/

/-- How many times a part that is not empty stands in a text. -/
def occurrences (part : Text) : Text → Nat
  | [] => 0
  | char :: rest => occurrences part rest + if part <+: char :: rest then 1 else 0

/-- A part does not stand in a text just where it is found no time. -/
theorem occurrences_eq_zero_iff {part : Text} (nonempty : part ≠ []) {text : Text} :
    occurrences part text = 0 ↔ ¬ part <:+: text := by
  induction text with
  | nil => exact iff_of_true rfl fun stands => nonempty (List.infix_nil.mp stands)
  | cons char rest ih =>
    rw [occurrences, Nat.add_eq_zero_iff, ih, List.infix_cons_iff, not_or, and_comm]
    refine and_congr_left fun _ => ?_
    split
    · rename_i starts
      exact iff_of_false Nat.one_ne_zero (not_not.mpr starts)
    · rename_i other
      exact iff_of_true rfl other

/-- A stretch in which a part starts nowhere. -/
theorem occurrences_append_of_none {part passed more : Text}
    (none : ∀ ending, ending <:+ passed → ending ≠ [] → ¬ part <+: ending ++ more) :
    occurrences part (passed ++ more) = occurrences part more := by
  induction passed with
  | nil => rfl
  | cons char passed ih =>
    have other := none (char :: passed) List.suffix_rfl (List.cons_ne_nil _ _)
    rw [List.cons_append] at other ⊢
    rw [occurrences, if_neg other, Nat.add_zero]
    exact ih fun ending isEnding => none ending (isEnding.trans (List.suffix_cons _ _))

/-- A stretch without the first character of a part. -/
theorem occurrences_append_of_absent {first : Char} {part passed : Text} (absent : first ∉ passed)
    (more : Text) :
    occurrences (first :: part) (passed ++ more) = occurrences (first :: part) more := by
  refine occurrences_append_of_none fun ending isEnding nonempty starts => absent ?_
  obtain ⟨char, rest, rfl⟩ := List.exists_cons_of_ne_nil nonempty
  obtain ⟨rfl, -⟩ := List.cons_prefix_cons.mp starts
  exact isEnding.subset List.mem_cons_self

/-! ### Openers -/

/-- Two texts that end before the same character are the same. -/
theorem prefix_iff_of_stop {stop : Char} {first second : Text} (one : stop ∉ first)
    (two : stop ∉ second) (more : Text) :
    first ++ [stop] <+: second ++ stop :: more ↔ first = second := by
  induction first generalizing second with
  | nil =>
    cases second with
    | nil => exact iff_of_true ⟨more, rfl⟩ rfl
    | cons char second =>
      have other := (List.ne_and_not_mem_of_not_mem_cons two).1
      refine iff_of_false (fun starts => ?_) nofun
      exact other (List.cons_prefix_cons.mp starts).1
  | cons char first ih =>
    obtain ⟨other, one⟩ := List.ne_and_not_mem_of_not_mem_cons one
    cases second with
    | nil =>
      refine iff_of_false (fun starts => ?_) nofun
      exact other (List.cons_prefix_cons.mp starts).1.symm
    | cons next second =>
      have two := (List.ne_and_not_mem_of_not_mem_cons two).2
      rw [List.cons_append, List.cons_append, List.cons_prefix_cons, ih one two, List.cons.injEq]

/-- A text of characters that identifiers are made of. The names of groups are such texts, and so
are the fields of tokens. -/
def IsGroupName (name : Text) : Prop :=
  ∀ char ∈ name, (startsIdentifier char || continuesIdentifier char) = true

theorem IsGroupName.not_mem {char : Char}
    (foreign : (startsIdentifier char || continuesIdentifier char) = false) {name : Text}
    (isName : IsGroupName name) : char ∉ name := by
  intro member
  rw [isName char member] at foreign
  cases foreign

theorem isGroupName_of_isIdentifier {name : Text} (identifier : isIdentifier name = true) :
    IsGroupName name := by
  cases name with
  | nil => nofun
  | cons first rest =>
    obtain ⟨starts, continues⟩ := Bool.and_eq_true_iff.mp identifier
    intro char member
    rcases List.mem_cons.mp member with rfl | member
    · rw [starts, Bool.true_or]
    · rw [List.all_eq_true.mp continues char member, Bool.or_true]

/-- What an opener is behind its parenthesis. -/
theorem opener_eq (name : Text) : opener name = '(' :: ('?' :: 'P' :: '<' :: (name ++ ['>'])) := rfl

/-- An opener holds one occurrence of an opener, where the names are the same. -/
theorem occurrences_opener_append {name field : Text} (one : '>' ∉ name) (two : '>' ∉ field)
    (unopened : '(' ∉ field) (more : Text) : occurrences (opener name) (opener field ++ more) =
      [field].count name + occurrences (opener name) more := by
  have absent : '(' ∉ '?' :: 'P' :: '<' :: (field ++ ['>']) := by simp [unopened]
  have starts : opener name <+: opener field ++ more ↔ field = name := by
    rw [eq_comm, ← prefix_iff_of_stop one two more]
    simp [opener]
  rw [opener_eq field, List.cons_append] at starts ⊢
  rw [occurrences, opener_eq name, occurrences_append_of_absent absent, ← opener_eq, Nat.add_comm,
    List.count_singleton]
  simp only [starts, beq_iff_eq]

/-! ### Fragments without named groups -/

/-- The characters that the place of a token may start with. -/
def starters : List Char :=
  "%([\\.\"".toList

/-- A fragment that starts with one of them, and whose parentheses all open groups without names. -/
def Bare (fragment : Text) : Prop :=
  (∃ char ∈ starters, [char] <+: fragment) ∧
    ∀ ending ∈ fragment.tails, ['('] <+: ending → "(?:".toList <+: ending

instance (fragment : Text) : Decidable (Bare fragment) :=
  @instDecidableAnd _ _ (List.decidableBEx _ _) (List.decidableBAll _ _)

/-- **The built-in fragments have no named groups.** -/
theorem bare_builtin (name : Text) : Bare (Registry.builtin.fragment name) := by
  have all : ∀ fragment ∈ Builtin.spelled.1.map Prod.snd, Bare fragment := by
    decide +kernel
  exact all _ (fragment_builtin_mem name)

theorem Bare.occurrences_append {fragment : Text} (bare : Bare fragment) (name more : Text) :
    occurrences (opener name) (fragment ++ more) = occurrences (opener name) more := by
  refine occurrences_append_of_none fun ending isEnding nonempty starts => ?_
  obtain ⟨char, rest, rfl⟩ := List.exists_cons_of_ne_nil nonempty
  obtain ⟨rfl, behind⟩ := List.cons_prefix_cons.mp starts
  obtain ⟨after, same⟩ := bare.2 _ ((List.mem_tails _ _).mpr isEnding) ⟨rest, rfl⟩
  obtain rfl : '?' :: ':' :: after = rest := (List.cons.inj same).2
  cases (List.cons_prefix_cons.mp (List.cons_prefix_cons.mp behind).2).1

theorem Token.wrap_of_untagged {token : Token} (untagged : token.tag = none) (fragment : Text) :
    token.wrap fragment = fragment := by
  simp [wrap, opening, closing, untagged]

/-- What stands in the place of a tagged token starts with an opener. -/
theorem Token.wrap_append_of_tag {token : Token} {tag : Tag} (tagged : token.tag = some tag)
    (fragment more : Text) :
    token.wrap fragment ++ more = opener tag.field ++ (fragment ++ ([')'] ++ more)) := by
  simp [wrap, opening, closing, opener, tagged]

/-- What stands in the place of a token opens the group that the token declares, and no other one. -/
theorem Bare.occurrences_wrap_append {token : Token} (wellFormed : token.WellFormed) {fragment : Text}
    (bare : Bare fragment) {name : Text} (unstopped : '>' ∉ name) (more : Text) :
    occurrences (opener name) (token.wrap fragment ++ more) =
      token.declared.count name + occurrences (opener name) more := by
  cases tagged : token.tag with
  | none =>
    rw [Token.wrap_of_untagged tagged, Token.declared, tagged, bare.occurrences_append]
    exact (Nat.zero_add _).symm
  | some tag =>
    have absent {char : Char} (noWord : isWordChar char = false) : char ∉ tag.field := by
      intro member
      rw [(wellFormed.tag tag tagged).field_word char member] at noWord
      cases noWord
    rw [Token.wrap_append_of_tag tagged, Token.declared, tagged,
      occurrences_opener_append unstopped (absent rfl) (absent rfl), bare.occurrences_append, opener_eq,
      occurrences_append_of_absent (by decide)]
    rfl

/-! ### Openers in passes -/

section Passes

variable {registry : Registry} (bare : ∀ name, Bare (registry.fragment name)) {name : Text}
  (isName : IsGroupName name)

include bare isName

/-- What follows the parenthesis of an opener is neither made nor broken by a pass. -/
theorem opener_prefix_substitute_iff (char : Char) (rest : Text) :
    opener name <+: char :: substitute registry rest ↔ opener name <+: char :: rest := by
  have breaks : Breaks (fun char => !starters.contains char)
      fun token => token.wrap (registry.fragment token.name) := by
    refine breaks_wrap rfl rfl fun name => ?_
    obtain ⟨first, among, after, split⟩ := (bare name).1
    exact ⟨first, after, split.symm, by simpa using among⟩
  have apart : ['?', 'P', '<', '>'].all (!starters.contains ·) = true := by decide
  have foreign :
      starters.all (fun char => !(startsIdentifier char || continuesIdentifier char)) = true := by
    decide +kernel
  have passes : ∀ char ∈ '?' :: 'P' :: '<' :: (name ++ ['>']), (!starters.contains char) = true := by
    intro char member
    by_cases within : char ∈ name
    · rw [Bool.not_eq_true', List.contains_eq_mem, decide_eq_false_iff_not]
      intro among
      have other := List.all_eq_true.mp foreign char among
      exact isName.not_mem (Bool.not_eq_true' _ ▸ other) within
    · have ends : char ∈ ['?', 'P', '<', '>'] := by simpa [within] using member
      exact List.all_eq_true.mp apart char ends
  rw [opener_eq, List.cons_prefix_cons, List.cons_prefix_cons, substitute_eq_replaced,
    prefix_replaced_iff breaks passes]

/-- **A pass opens a group for each field that it declares, and leaves those that are open.** -/
theorem occurrences_substitute (text : Text) :
    occurrences (opener name) (substitute registry text) =
      occurrences (opener name) text + ((pieces text).filterMap Piece.field?).count name := by
  induction text using pieces_induction with
  | nil => rfl
  | token token rest wellFormed ih =>
    have unstopped : '>' ∉ name := isName.not_mem (by decide +kernel)
    have unopened : '(' ∉ token.spell := List.count_eq_zero.mp (Token.count_opening_spell wellFormed)
    rw [substitute_spell_append registry wellFormed,
      (bare token.name).occurrences_wrap_append wellFormed unstopped, ih, opener_eq name,
      occurrences_append_of_absent unopened, pieces_spell_append wellFormed, filterMap_field?_token,
      List.count_append]
    omega
  | literal char rest plain ih =>
    rw [substitute_literal registry plain, occurrences, occurrences, ih, pieces_literal plain,
      filterMap_field?_literal]
    simp only [opener_prefix_substitute_iff bare isName]
    omega

/-- **The openers of a name after any number of passes** are those of the source and one for each
time that the name is declared. -/
theorem occurrences_expandFrom (budget : Nat) (source : Text) :
    let last := (expandFrom registry budget ⟨source, [], []⟩).value
    occurrences (opener name) last.text =
      occurrences (opener name) source + last.fields.count name := by
  refine expandFrom_induction (fun expansion =>
    occurrences (opener name) expansion.text =
      occurrences (opener name) source + expansion.fields.count name)
    (fun expansion counted => ?_) budget rfl
  show occurrences (opener name) (substitute registry expansion.text) = _
  rw [occurrences_substitute bare isName, counted, Expansion.pass, List.count_append]
  omega

end Passes

/-- **The openers of a name in an expansion** are those of the source and one for each time that the
name is declared, wherever the expansion ends. -/
theorem occurrences_expand {registry : Registry} (bare : ∀ name, Bare (registry.fragment name))
    {name : Text} (identifier : isIdentifier name = true) (budget : Nat) (source : Text) :
    let last := (expand registry budget source).value
    occurrences (opener name) last.text =
      occurrences (opener name) source + last.fields.count name := by
  rw [expand_value]
  exact occurrences_expandFrom bare (isGroupName_of_isIdentifier identifier) budget source

/-! ### Matching -/

/-- **What a pattern matches has names that it has declared.** Whatever a source holds, as long as
it opens no named group itself, and however few passes are made of it over the built-in table: what
its pattern finds in a text is kept under fields of its tokens. -/
theorem match_declared [CharacterNames] {source : Text} (unopened : ¬ "(?P<".toList <:+: source)
    (passes cacheSize : Nat) (requests : List Request) {pattern : Pattern}
    (compiled : ((served (.fresh .builtin passes cacheSize) requests).compile source).value.1 =
      .ok pattern)
    {text : Text} {fields : Entries Text Text} (found : pattern.match? text = some fields) :
    ∀ name ∈ Entries.keys fields, name ∈ pattern.expansion.fields := by
  intro name member
  obtain ⟨field, isField, rfl⟩ := List.mem_map.mp member
  have reliable := reliable_served .builtin passes cacheSize requests
  have compiled := (reliable.compile_eq_ok_iff source pattern).mp compiled
  obtain ⟨expression, isRead, found⟩ := compiled.read_of_match found
  obtain ⟨⟨group, named⟩, -⟩ := Expression.mem_fields found isField
  obtain ⟨identifier, stands⟩ := named_of_read isRead _ named
  have nonempty (name : Text) : opener name ≠ [] := List.cons_ne_nil _ _
  have inSource : occurrences (opener field.1) source = 0 := by
    refine (occurrences_eq_zero_iff (nonempty _)).mpr fun opens => unopened (.trans ?_ opens)
    exact (List.prefix_append _ (field.1 ++ ['>'])).isInfix
  have counted := occurrences_expand bare_builtin identifier passes source
  have some : occurrences (opener field.1) (expand .builtin passes source).value.text ≠ 0 :=
    mt (occurrences_eq_zero_iff (nonempty _)).mp (not_not.mpr stands)
  rw [compiled.2.1, ← List.count_pos_iff]
  dsimp only at counted
  omega

/-- A field that a comment swallows is declared and never matched. -/
theorem match_declared_comment :
    let source := "((?#%\x7bDATA:hidden\x7d)%\x7bINT:level\x7d|%\x7bX".toList
    ¬ "(?P<".toList <:+: source ∧
      ∃ pattern, ((served (.fresh .builtin 1 8) []).compile source).value.1 = .ok pattern ∧
        pattern.expansion.fields = ["hidden".toList, "level".toList] ∧
        pattern.match? "x7".toList = some [("level".toList, "7".toList)] ∧
        ∀ name ∈ ["level".toList], name ∈ pattern.expansion.fields := by
  intro source
  have unopened : ¬ "(?P<".toList <:+: source := by decide +kernel
  have outcome : ((served (.fresh .builtin 1 8) []).compile source).value.1.toOption.map
      (fun pattern => (pattern.expansion.fields, pattern.match? "x7".toList)) =
        some (["hidden".toList, "level".toList], some [("level".toList, "7".toList)]) := by
    decide +kernel
  cases compiled : ((served (.fresh .builtin 1 8) []).compile source).value.1 with
  | error fault =>
    rw [compiled] at outcome
    cases outcome
  | ok pattern =>
    rw [compiled] at outcome
    obtain ⟨fields, found⟩ := Prod.mk.inj (Option.some.inj outcome)
    exact ⟨unopened, pattern, rfl, fields, found, match_declared unopened 1 8 [] compiled found⟩

end GrokEvents.Grok
