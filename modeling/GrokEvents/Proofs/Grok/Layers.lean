/-
**Layers of patterns.**

A registry is the built-in table with further entries written over it. Laying one more table over a
registry judges the merged table and writes it over the built-in one once more, which comes to
writing the entries of the new table over those of the registry: a known name keeps its place, a new
one comes last.

* `ofTable_eq_ok_iff`: which tables are accepted, and what they make.
* `extend_tableOf`: laying an accepted table over a registry succeeds and writes its entries.
-/

import GrokEvents.Grok.Registry
import GrokEvents.Proofs.Entries

namespace GrokEvents.Grok.Registry

/-! ### Tables that are accepted -/

/-- Texts by name as a table of values. -/
def tableOf (texts : List (Text × Text)) : List (Value × Value) :=
  toTable ⟨texts⟩

theorem map_fst_tableOf (texts : List (Text × Text)) :
    (tableOf texts).map Prod.fst = (Entries.keys texts).map Value.text := by
  rw [tableOf, toTable, Entries.keys, List.map_map, List.map_map]
  rfl

theorem text_mem_tableOf {name : Text} {texts : List (Text × Text)} :
    .text name ∈ (tableOf texts).map Prod.fst ↔ name ∈ Entries.keys texts := by
  rw [map_fst_tableOf]
  exact List.mem_map_of_injective fun _ _ => Value.text.inj

theorem checkEntry_eq_ok_iff {entry : Value × Value} {checked : Text × Text} :
    checkEntry entry = .ok checked ↔
      entry = (.text checked.1, .text checked.2) ∧ acceptsName checked.1 = true := by
  obtain ⟨key, value⟩ := entry
  constructor
  · intro good
    cases key with
    | text name =>
      cases accepted : acceptsName name with
      | false =>
        simp only [checkEntry, accepted, Bool.false_eq_true, if_false] at good
        cases good
      | true =>
        simp only [checkEntry, accepted, if_true] at good
        cases value <;> cases good
        exact ⟨rfl, accepted⟩
    | _ => cases good
  · rintro ⟨same, accepted⟩
    obtain ⟨rfl, rfl⟩ := Prod.mk.inj same
    rw [checkEntry, if_pos accepted]

theorem mapM_checkEntry_eq_ok_iff {table : List (Value × Value)} {texts : List (Text × Text)} :
    table.mapM checkEntry = .ok texts ↔
      table = tableOf texts ∧ ∀ name ∈ Entries.keys texts, acceptsName name = true := by
  induction table generalizing texts with
  | nil =>
    constructor
    · rintro ⟨⟩
      exact ⟨rfl, nofun⟩
    · rintro ⟨none, -⟩
      have empty : texts = [] := List.map_eq_nil_iff.mp none.symm
      rw [empty]
      rfl
  | cons entry table ih =>
    rw [List.mapM_cons]
    constructor
    · intro good
      cases first : checkEntry entry with
      | error problem =>
        rw [first] at good
        cases good
      | ok checked =>
        cases others : table.mapM checkEntry with
        | error problem =>
          rw [first, others] at good
          cases good
        | ok rest =>
          rw [first, others] at good
          cases good
          obtain ⟨same, accepted⟩ := checkEntry_eq_ok_iff.mp first
          obtain ⟨alike, known⟩ := ih.mp others
          refine ⟨by rw [same, alike]; rfl, ?_⟩
          exact List.forall_mem_cons.mpr ⟨accepted, known⟩
    · rintro ⟨same, accepted⟩
      cases texts with
      | nil => cases same
      | cons text texts =>
        obtain ⟨alike, others⟩ := List.cons.inj same
        obtain ⟨known, accepted⟩ := List.forall_mem_cons.mp accepted
        rw [checkEntry_eq_ok_iff.mpr ⟨alike, known⟩, ih.mpr ⟨others, accepted⟩]
        rfl

/-- **The tables that are accepted**, and the registries that they make. -/
theorem ofTable_eq_ok_iff {table : List (Value × Value)} {registry : Registry} :
    ofTable table = .ok registry ↔
      ∃ texts, table = tableOf texts ∧ (∀ name ∈ Entries.keys texts, acceptsName name = true) ∧
        registry = layered texts := by
  rw [ofTable]
  constructor
  · intro good
    cases checked : table.mapM checkEntry with
    | error problem =>
      rw [checked] at good
      cases good
    | ok texts =>
      rw [checked] at good
      cases good
      obtain ⟨same, accepted⟩ := mapM_checkEntry_eq_ok_iff.mp checked
      exact ⟨texts, same, accepted, rfl⟩
  · rintro ⟨texts, same, accepted, rfl⟩
    rw [mapM_checkEntry_eq_ok_iff.mpr ⟨same, accepted⟩]
    rfl

/-! ### One more table -/

theorem tableOf_cons (text : Text × Text) (texts : List (Text × Text)) :
    tableOf (text :: texts) = (.text text.1, .text text.2) :: tableOf texts := rfl

theorem putEntry_tableOf (name fragment : Text) (texts : Entries Text Text) :
    Value.putEntry (.text name) (.text fragment) (tableOf texts) =
      tableOf (Entries.insert name fragment texts) := by
  induction texts with
  | nil => rfl
  | cons text texts ih =>
    rw [tableOf_cons, Value.putEntry, Entries.insert]
    by_cases same : text.1 = name
    · rw [if_pos same, if_pos ((Value.same_text _ _).mpr same)]
      rfl
    · rw [if_neg same, if_neg (mt (Value.same_text _ _).mp same), ih]
      rfl

theorem merge_tableOf (texts later : Entries Text Text) :
    (tableOf later).foldl (fun merged entry => Value.putEntry entry.1 entry.2 merged) (tableOf texts) =
      tableOf (Entries.extend texts later) := by
  induction later generalizing texts with
  | nil => rfl
  | cons entry later ih =>
    rw [tableOf_cons, List.foldl_cons, putEntry_tableOf, ih]
    rfl

theorem acceptsName_of_builtin {name : Text} (builtin : name ∈ Entries.keys Builtin.entries) :
    acceptsName name = true := by
  have all : ∀ name ∈ Entries.keys Builtin.entries, acceptsName name = true := by decide +kernel
  exact all name builtin

/-- **Laying an accepted table over a registry succeeds**, and writes the entries of the table over
those of the registry. Writing the built-in patterns below them once more changes nothing. -/
theorem extend_tableOf {patterns later : List (Text × Text)}
    (accepted : ∀ name ∈ Entries.keys patterns, acceptsName name = true)
    (good : ∀ name ∈ Entries.keys later, acceptsName name = true) :
    (layered patterns).extend (tableOf later) =
      .ok ⟨Entries.extend (layered patterns).entries later⟩ := by
  let whole := Entries.extend (layered patterns).entries later
  have merged : (tableOf later).foldl (fun merged entry => Value.putEntry entry.1 entry.2 merged)
      (layered patterns).toTable = tableOf whole := merge_tableOf _ _
  have beginning : Entries.keys Builtin.entries <+: Entries.keys whole :=
    (Entries.keys_prefix_extend patterns _).trans (Entries.keys_prefix_extend later _)
  have distinct : (Entries.keys whole).Nodup :=
    Entries.nodup_keys_extend later (Entries.nodup_keys_extend patterns Builtin.keys_builtin_nodup)
  have fine (name : Text) (member : name ∈ Entries.keys whole) : acceptsName name = true := by
    rcases Entries.mem_keys_extend member with before | new
    · rcases Entries.mem_keys_extend before with builtin | layer
      · exact acceptsName_of_builtin builtin
      · exact accepted name layer
    · exact good name new
  have same : layered whole = ⟨whole⟩ :=
    congrArg Registry.mk (Entries.extend_of_beginning beginning distinct)
  rw [extend, merged]
  exact ofTable_eq_ok_iff.mpr ⟨whole, rfl, fine, same.symm⟩

end GrokEvents.Grok.Registry
