/-
**Laying tables over a registry one after the other.**

Tables that are laid over a registry one after the other come to the table that they are merged
into, laid over the built-in patterns at once. Merging keeps a name where it first appears and takes
the value that it has last, so the names come in the order of their first appearance, behind the
built-in ones, and the last table that holds a name says what it means.

* `extend_layered`: one more table over layered ones is one more layer.
* `ofTable_mergeEntries`: a merged table makes the layers of its parts.
* `extend_of_layers`: two extensions of a registry against the registry of the merged table.
-/

import GrokEvents.Proofs.Grok.Layers

namespace GrokEvents.Grok.Registry

/-- The texts among the keys of a table. -/
def names (table : List (Value × Value)) : List Text :=
  table.filterMap fun entry =>
    match entry.1 with
    | .text name => some name
    | _ => none

/-- The value of a name in the first of some tables that holds it. -/
def firstOf (tables : List (List (Value × Value))) (name : Text) : Option Value :=
  tables.findSome? (Value.getText? name)

/-! ### Tables of texts -/

theorem tableOf_append (texts later : List (Text × Text)) :
    tableOf (texts ++ later) = tableOf texts ++ tableOf later :=
  List.map_append

theorem names_tableOf (texts : List (Text × Text)) : names (tableOf texts) = Entries.keys texts := by
  induction texts with
  | nil => rfl
  | cons text texts ih => exact congrArg (text.1 :: ·) ih

theorem getText?_tableOf (name : Text) (texts : List (Text × Text)) :
    Value.getText? name (tableOf texts) = (Entries.get? name texts).map Value.text := by
  induction texts with
  | nil => rfl
  | cons text texts ih =>
    rw [tableOf_cons, Value.getText?, Entries.get?]
    by_cases same : text.1 = name
    · rw [if_pos same, if_pos same]
      rfl
    · rw [if_neg same, if_neg same, ih]

theorem nodup_keys_of_tableOf {texts : List (Text × Text)}
    (distinct : ((tableOf texts).map Prod.fst).Nodup) : (Entries.keys texts).Nodup := by
  rw [map_fst_tableOf] at distinct
  exact distinct.of_map _

/-! ### Layers -/

theorem layered_append (patterns later : List (Text × Text)) :
    layered (patterns ++ later) = ⟨Entries.extend (layered patterns).entries later⟩ :=
  congrArg Registry.mk List.foldl_append

section Accepted

variable {patterns later : List (Text × Text)}
  (accepted : ∀ name ∈ Entries.keys patterns, acceptsName name = true)
  (good : ∀ name ∈ Entries.keys later, acceptsName name = true)

include accepted

/-- A merged table makes the layers of its parts. -/
theorem ofTable_mergeEntries :
    ofTable (Value.mergeEntries (tableOf patterns)) = .ok (layered patterns) := by
  have merged : Value.mergeEntries (tableOf patterns) = tableOf (Entries.ofList patterns) :=
    merge_tableOf [] _
  have fine : ∀ name ∈ Entries.keys (Entries.ofList patterns), acceptsName name = true :=
    fun name member =>
    accepted name ((Entries.mem_keys_extend member).resolve_left nofun)
  have same : layered patterns = layered (Entries.ofList patterns) :=
    congrArg Registry.mk (Entries.extend_ofList _ _).symm
  exact ofTable_eq_ok_iff.mpr ⟨_, merged, fine, same⟩

include good

/-- One more table over layered ones is one more layer. -/
theorem extend_layered :
    (layered patterns).extend (tableOf later) = .ok (layered (patterns ++ later)) := by
  rw [extend_tableOf accepted good, layered_append]

theorem acceptsName_append (name : Text) (member : name ∈ Entries.keys (patterns ++ later)) :
    acceptsName name = true := by
  rw [Entries.keys, List.map_append] at member
  exact (List.mem_append.mp member).elim (accepted name) (good name)

end Accepted

theorem has_eq_isSome (registry : Registry) (name : Text) :
    registry.has name = (registry.get? name).isSome :=
  Entries.has_eq_isSome name registry.entries

theorem get?_layered_append {patterns later : List (Text × Text)}
    (distinct : (Entries.keys later).Nodup)
    (name : Text) : (layered (patterns ++ later)).get? name =
      (Entries.get? name later).or ((layered patterns).get? name) := by
  rw [layered_append]
  exact Entries.get?_extend distinct _ name

/-! ### Three layers -/

/-- A known name has the value that the first of some tables gives it, and an unknown one means the
catch-all. -/
structure Means (registry : Registry) (tables : List (List (Value × Value))) (name : Text) : Prop where
  known : ∀ value, firstOf tables name = some value →
    registry.has name = true ∧ .text (registry.fragment name) = value
  unknown : firstOf tables name = none →
    registry.has name = false ∧ registry.fragment name = registry.fragment fallbackName

theorem means_of_get? {registry : Registry} {tables : List (List (Value × Value))} {name : Text}
    (found : (registry.get? name).map Value.text = firstOf tables name) :
    Means registry tables name := by
  cases fragment : registry.get? name with
  | some text =>
    rw [fragment] at found
    refine ⟨fun value isFirst => ?_, fun none => ?_⟩
    · rw [← found] at isFirst
      refine ⟨by rw [has_eq_isSome, fragment]; rfl, ?_⟩
      rw [Registry.fragment, fragment]
      exact Option.some.inj isFirst
    · rw [← found] at none
      cases none
  | none =>
    rw [fragment] at found
    refine ⟨fun value isFirst => ?_, fun _ => ?_⟩
    · rw [← found] at isFirst
      cases isFirst
    · refine ⟨by rw [has_eq_isSome, fragment]; rfl, ?_⟩
      rw [Registry.fragment, Registry.fragment, fragment]
      cases registry.get? fallbackName <;> rfl

/-- **Extending a registry twice.** Three tables are accepted, and in each the keys are distinct.
The registry of the first one, extended by the second and then by the third, is the registry of the
three tables merged: every lookup, what is known, the number of the names and their order are the
same. The names are the built-in ones and then the new ones as they first appear, and a name means
what the last table that holds it says. -/
theorem extend_of_layers {first second third : List (Value × Value)} {registry other another : Registry}
    (one : ofTable first = .ok registry) (two : ofTable second = .ok other)
    (three : ofTable third = .ok another)
    (distinct : (first.map Prod.fst).Nodup ∧ (second.map Prod.fst).Nodup ∧ (third.map Prod.fst).Nodup) :
    ∃ merged, ofTable (Value.mergeEntries (first ++ second ++ third)) = .ok merged ∧
      (registry.extend second).bind (·.extend third) = .ok merged ∧
      Entries.keys merged.entries = Entries.keys Builtin.entries ++
        ((names (first ++ second ++ third)).filter fun name =>
          name ∉ Entries.keys Builtin.entries).eraseDups ∧
      ∀ name, Means merged [third, second, first, builtin.toTable] name := by
  obtain ⟨front, rfl, frontGood, rfl⟩ := ofTable_eq_ok_iff.mp one
  obtain ⟨middle, rfl, middleGood, -⟩ := ofTable_eq_ok_iff.mp two
  obtain ⟨back, rfl, backGood, -⟩ := ofTable_eq_ok_iff.mp three
  obtain ⟨frontDistinct, middleDistinct, backDistinct⟩ := distinct
  have good := acceptsName_append frontGood middleGood
  rw [← tableOf_append, ← tableOf_append]
  refine ⟨layered (front ++ middle ++ back),
    ofTable_mergeEntries (acceptsName_append good backGood), ?_, ?_, ?_⟩
  · rw [extend_layered frontGood middleGood]
    exact extend_layered good backGood
  · rw [names_tableOf]
    exact Entries.keys_extend (front ++ middle ++ back) Builtin.entries
  · intro name
    apply means_of_get?
    have builtinFirst : (layered front).get? name = (Entries.get? name front).or (builtin.get? name) :=
      Entries.get?_extend (nodup_keys_of_tableOf frontDistinct) _ name
    rw [get?_layered_append (nodup_keys_of_tableOf backDistinct),
      get?_layered_append (nodup_keys_of_tableOf middleDistinct), builtinFirst]
    have table : builtin.toTable = tableOf builtin.entries := rfl
    simp only [firstOf, List.findSome?_cons, List.findSome?_nil, table, getText?_tableOf, get?]
    cases Entries.get? name back with
    | some value => rfl
    | none =>
      cases Entries.get? name middle with
      | some value => rfl
      | none =>
        cases Entries.get? name front with
        | some value => rfl
        | none => cases Entries.get? name builtin.entries <;> rfl

/-- A new pattern and another catch-all. -/
def firstLayer : List (Text × Text) :=
  [("DATA".toList, ".+".toList), ("NEW".toList, "a".toList)]

/-- A built-in pattern that is redefined, and once more another catch-all. -/
def secondLayer : List (Text × Text) :=
  [("IP".toList, "b".toList), ("DATA".toList, "c*".toList)]

/-- A further pattern, and the new one redefined. -/
def thirdLayer : List (Text × Text) :=
  [("LAST".toList, "d".toList), ("NEW".toList, "%\x7bLAST\x7d".toList)]

/-- The new names come as they first appear, and unknown ones mean the catch-all of the second table. -/
theorem extend_of_layers_overlapping :
    ofTable (tableOf firstLayer) = .ok (layered firstLayer) ∧
      ofTable (tableOf secondLayer) = .ok (layered secondLayer) ∧
      ofTable (tableOf thirdLayer) = .ok (layered thirdLayer) ∧ (Entries.keys firstLayer).Nodup ∧
      (Entries.keys secondLayer).Nodup ∧ (Entries.keys thirdLayer).Nodup ∧
      ∃ merged,
        ofTable (Value.mergeEntries
          (tableOf firstLayer ++ tableOf secondLayer ++ tableOf thirdLayer)) = .ok merged ∧
        ((layered firstLayer).extend (tableOf secondLayer)).bind (·.extend (tableOf thirdLayer)) =
          .ok merged ∧
        Entries.keys merged.entries =
          Entries.keys Builtin.entries ++ ["NEW".toList, "LAST".toList] ∧
        merged.fragment "NEW".toList = "%\x7bLAST\x7d".toList ∧
        merged.fragment "NOBODY".toList = "c*".toList := by
  have one : ofTable (tableOf firstLayer) = .ok (layered firstLayer) :=
    ofTable_eq_ok_iff.mpr ⟨firstLayer, rfl, by decide, rfl⟩
  have two : ofTable (tableOf secondLayer) = .ok (layered secondLayer) :=
    ofTable_eq_ok_iff.mpr ⟨secondLayer, rfl, by decide, rfl⟩
  have three : ofTable (tableOf thirdLayer) = .ok (layered thirdLayer) :=
    ofTable_eq_ok_iff.mpr ⟨thirdLayer, rfl, by decide, rfl⟩
  have distinct : (Entries.keys firstLayer).Nodup ∧ (Entries.keys secondLayer).Nodup ∧
      (Entries.keys thirdLayer).Nodup := by
    decide
  have nodup {texts : List (Text × Text)} (distinct : (Entries.keys texts).Nodup) :
      ((tableOf texts).map Prod.fst).Nodup := by
    rw [map_fst_tableOf]
    exact distinct.map fun _ _ => Value.text.inj
  obtain ⟨merged, made, extended, keys, means⟩ :=
    extend_of_layers one two three ⟨nodup distinct.1, nodup distinct.2.1, nodup distinct.2.2⟩
  have new : ((names (tableOf firstLayer ++ tableOf secondLayer ++ tableOf thirdLayer)).filter
      fun name => name ∉ Entries.keys Builtin.entries).eraseDups = ["NEW".toList, "LAST".toList] := by
    decide +kernel
  rw [new] at keys
  refine ⟨one, two, three, distinct.1, distinct.2.1, distinct.2.2, merged, made, extended, keys, ?_, ?_⟩
  · exact Value.text.inj ((means "NEW".toList).known _ rfl).2
  · rw [((means "NOBODY".toList).unknown rfl).2]
    exact Value.text.inj ((means fallbackName).known _ rfl).2

end GrokEvents.Grok.Registry
