/-
**The built-in table unfolded.**

The built-in fragments are sealed and refer to each other at most twice in a row. Expanding any source
over them is therefore one substitution: every token gives way to the meaning of its fragment at once.

* `unfolds_of_depth_lt`: meanings computed down to enough levels.
* `unfolds_builtinMeaning`: what each name means in the end.
* `expand_builtin`: the expansion of a source, whatever stands in it.
-/

import GrokEvents.Proofs.Grok.Sealed

namespace GrokEvents.Grok

open Text

/-! ### Meanings by recursion -/

/-- The meaning of a row of pieces, by the meanings of the fragments of its tokens. -/
def Meaning.ofRow (inner : Token → Meaning) : List Piece → Meaning
  | [] => ⟨0, [], []⟩
  | .literal char :: rest =>
    let after := ofRow inner rest
    ⟨after.depth, char :: after.text, after.tags⟩
  | .token token :: rest =>
    let after := ofRow inner rest
    ⟨max ((inner token).depth + 1) after.depth, token.wrap (inner token).text ++ after.text,
      token.declared ++ (inner token).tags ++ after.tags⟩

/-- The meaning of a row of pieces, followed down so many levels of fragments. -/
def Registry.unfold (registry : Registry) : (levels : Nat) → List Piece → Meaning
  | 0, row => ⟨0, row.flatMap Piece.spell, []⟩
  | levels + 1, row =>
    .ofRow (fun token => registry.unfold levels (pieces (registry.fragment token.name))) row

variable {registry : Registry}

theorem unfolds_ofRow {inner : Token → Meaning} {row : List Piece}
    (fragments : ∀ token, .token token ∈ row →
      Unfolds registry (pieces (registry.fragment token.name)) (inner token)) :
    Unfolds registry row (.ofRow inner row) := by
  induction row with
  | nil => exact .nil
  | cons piece row ih =>
    have tail := ih fun token member => fragments token (List.mem_cons_of_mem _ member)
    cases piece with
    | literal char => exact .literal char tail
    | token token => exact .token token (fragments token List.mem_cons_self) tail

/-- A token of a row is less deep than the row. -/
theorem depth_lt_ofRow (inner : Token → Meaning) {row : List Piece} {token : Token}
    (member : .token token ∈ row) : (inner token).depth < (Meaning.ofRow inner row).depth := by
  induction row with
  | nil => cases member
  | cons piece row ih =>
    rcases List.mem_cons.mp member with rfl | inRow
    · exact Nat.lt_of_lt_of_le (Nat.lt_succ_self _) (Nat.le_max_left _ _)
    · cases piece with
      | literal char => exact ih inRow
      | token other => exact (ih inRow).trans_le (Nat.le_max_right _ _)

theorem depth_ofRow_le {inner : Token → Meaning} {bound : Nat} {row : List Piece}
    (shallow : ∀ token, .token token ∈ row → (inner token).depth < bound) :
    (Meaning.ofRow inner row).depth ≤ bound := by
  induction row with
  | nil => exact Nat.zero_le _
  | cons piece row ih =>
    have tail := ih fun token member => shallow token (List.mem_cons_of_mem _ member)
    cases piece with
    | literal char => exact tail
    | token token => exact Nat.max_le.mpr ⟨shallow token List.mem_cons_self, tail⟩

/-- A meaning that is less deep than the levels followed is the meaning of the row. -/
theorem unfolds_of_depth_lt {levels : Nat} {row : List Piece}
    (shallow : (registry.unfold levels row).depth < levels) :
    Unfolds registry row (registry.unfold levels row) := by
  induction levels generalizing row with
  | zero => cases shallow
  | succ levels ih =>
    apply unfolds_ofRow
    intro token member
    have less := depth_lt_ofRow
      (fun token => registry.unfold levels (pieces (registry.fragment token.name))) member
    exact ih (Nat.lt_of_lt_of_le less (Nat.le_of_lt_succ shallow))

/-! ### The built-in fragments -/

/-- The table with its texts written out, so that what is checked of all of it is evaluated fast. -/
def Builtin.spelled : {table : Entries Text Text // Builtin.entries = table} := by
  constructor
  unfold entries network web basic people dates paths accessLogs
  simp only [String.toList_append, List.map_cons, List.map_nil, List.cons_append, List.nil_append]
  repeat rewrite [String.toList_ofList]
  rfl

theorem builtin_eq : Registry.builtin = ⟨Builtin.spelled.1⟩ :=
  congrArg Registry.mk Builtin.spelled.2

/-- Every name means a fragment of the table, an unknown one that of the catch-all. -/
theorem fragment_builtin_mem (name : Text) :
    Registry.builtin.fragment name ∈ Builtin.spelled.1.map Prod.snd := by
  rw [builtin_eq]
  have known {name fragment : Text} (found : Entries.get? name Builtin.spelled.1 = some fragment) :
      fragment ∈ Builtin.spelled.1.map Prod.snd :=
    List.mem_map_of_mem (Entries.mem_of_get? found)
  have fallback : (Entries.get? Registry.fallbackName Builtin.spelled.1).isSome = true := by
    decide +kernel
  obtain ⟨data, isData⟩ := Option.isSome_iff_exists.mp fallback
  unfold Registry.fragment Registry.get?
  cases found : Entries.get? name Builtin.spelled.1 with
  | some fragment => exact known found
  | none =>
    rw [isData]
    exact known isData

theorem sealed_builtin : Registry.builtin.Sealed := by
  have all : ∀ fragment ∈ Builtin.spelled.1.map Prod.snd,
      PercentClean fragment ∧ breaksToken fragment = true := by
    decide +kernel
  exact ⟨fun name => (all _ (fragment_builtin_mem name)).1,
    fun name => (all _ (fragment_builtin_mem name)).2⟩

/-- What a name means in the end over the built-in table. -/
def builtinMeaning (name : Text) : Meaning :=
  Registry.builtin.unfold 3 (pieces (Registry.builtin.fragment name))

theorem depth_builtinMeaning (name : Text) : (builtinMeaning name).depth < 3 := by
  have all : ∀ fragment ∈ Builtin.spelled.1.map Prod.snd,
      ((Registry.mk Builtin.spelled.1).unfold 3 (pieces fragment)).depth < 3 := by
    decide +kernel
  have shallow := all _ (fragment_builtin_mem name)
  rwa [← builtin_eq] at shallow

/-- What a name means is the meaning of its fragment, found by recursion. -/
theorem unfolds_builtinMeaning (name : Text) :
    Unfolds .builtin (pieces (Registry.builtin.fragment name)) (builtinMeaning name) :=
  unfolds_of_depth_lt (depth_builtinMeaning name)

/-- The meaning of a source, token by token. -/
def sourceMeaning (source : Text) : Meaning :=
  .ofRow (fun token => builtinMeaning token.name) (pieces source)

theorem unfolds_sourceMeaning (source : Text) :
    Unfolds .builtin (pieces source) (sourceMeaning source) :=
  unfolds_ofRow fun token _ => unfolds_builtinMeaning token.name

theorem depth_sourceMeaning_le (source : Text) : (sourceMeaning source).depth ≤ 3 :=
  depth_ofRow_le fun token _ => depth_builtinMeaning token.name

/-- What enough passes over the built-in table come to. -/
theorem expand_builtin_meaning {budget : Nat} (enough : 3 ≤ budget) (source : Text) :
    let last := (expand .builtin budget source).value
    last.text = (sourceMeaning source).text ∧ last.fields.Perm (sourceMeaning source).tags ∧
      (∀ token, .token token ∉ pieces last.text) ∧ (Stuck last.text ↔ Stuck source) := by
  rw [expand_value]
  exact expandFrom_of_sealed sealed_builtin (unfolds_sourceMeaning source)
    ((depth_sourceMeaning_le source).trans enough) [] []

/-! ### Expansion in one substitution -/

/-- What stands in the place of a piece, given what each name means. -/
def Piece.filled (meaning : Text → Text) : Piece → Text
  | .literal char => [char]
  | .token reference =>
    match reference.tag with
    | none => meaning reference.name
    | some tag => namedGroup tag.field (meaning reference.name)

theorem text_ofRow (meaning : Text → Meaning) (row : List Piece) :
    (Meaning.ofRow (fun token => meaning token.name) row).text =
      row.flatMap (Piece.filled fun name => (meaning name).text) := by
  induction row with
  | nil => rfl
  | cons piece row ih =>
    rw [List.flatMap_cons, ← ih]
    match piece with
    | .literal char => rfl
    | .token ⟨name, none⟩ =>
      exact congrArg (· ++ _) (List.append_nil (meaning name).text)
    | .token ⟨name, some tag⟩ =>
      simp [Meaning.ofRow, Token.wrap, Token.opening, Token.closing, Piece.filled, namedGroup]

/-- **Expansion over the built-in table is one substitution**, whatever stands in the source. Every
token gives way to what its name means, in a named group where it is tagged, and all other
characters stay. The expansion is left unresolved just where something in the source looks like a
token and is none, and expanding it again changes nothing and finds no field. -/
theorem expand_builtin {budget : Nat} (enough : 3 ≤ budget) (source : Text) :
    (∀ name, Unfolds .builtin (pieces (Registry.builtin.fragment name)) (builtinMeaning name)) ∧
      (expand .builtin budget source).value.text =
        (pieces source).flatMap (Piece.filled fun name => (builtinMeaning name).text) ∧
      ((expand .builtin budget source).value.isResolved = false ↔ Stuck source) ∧
      ∀ again, (expand .builtin again (expand .builtin budget source).value.text).value =
        ⟨(expand .builtin budget source).value.text, [], []⟩ := by
  obtain ⟨isText, -, none, stuck⟩ := expand_builtin_meaning enough source
  refine ⟨unfolds_builtinMeaning, isText.trans (text_ofRow _ _), ?_, fun again => ?_⟩
  · rw [Expansion.isResolved, Bool.not_eq_false', isPending_iff_token_or_stuck, stuck]
    refine or_iff_right ?_
    rintro ⟨token, member⟩
    exact none token member
  · rw [expand_value]
    exact expandFrom_of_no_token none again [] []

/-- A source in which a percent sign stands before a token, and two tokens are begun and never ended. -/
theorem expand_builtin_nearly :
    let last := (expand .builtin 3
      "%%\x7bINT\x7d %\x7bA%\x7bDATA\x7d %\x7bX:%\x7bNO:n:t\x7d\x7d".toList).value
    last.text = "%(?:[+-]?[0-9]+) %\x7bA.*? %\x7bX:(?P<n>.*?)\x7d".toList ∧ last.isResolved = false ∧
      (expand .builtin 9 last.text).value = ⟨last.text, [], []⟩ := by
  obtain ⟨-, isText, resolved, again⟩ := expand_builtin (le_refl 3)
    "%%\x7bINT\x7d %\x7bA%\x7bDATA\x7d %\x7bX:%\x7bNO:n:t\x7d\x7d".toList
  refine ⟨isText.trans (by decide +kernel), resolved.mpr ?_, again 9⟩
  exact ⟨'X', ":%\x7bNO:n:t\x7d\x7d".toList, by decide +kernel, rfl, by decide +kernel⟩

end GrokEvents.Grok
