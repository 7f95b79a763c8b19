/-
**Just what is empty is pruned.**

A value is looked into along the names of its objects; arrays are not looked into. Pruning keeps
each leaf that is not empty at its place, and of the objects around it nothing else.

* `At`: what stands in a value at a path of names.
* `at_kept?_iff`: what is kept of a value has the leaves that are not empty, each at its place.
* `kept?_kept`: what is kept once is kept again.
* `pruned_prune`: what pruning leaves of any value.
-/

import GrokEvents.Proofs.Event.Pruning
import Mathlib.Tactic.ByContra

namespace GrokEvents.Json

/-! ### Places -/

/-- **What stands in a value at a path**, from the names of its members inwards. -/
inductive At : List Text → Json → Json → Prop
  | here (part : Json) : At [] part part
  | member {name : Text} {path : List Text} {part inner : Json} {members : List (Text × Json)}
      (among : (name, inner) ∈ members) (inside : At path part inner) :
      At (name :: path) part (.object members)

/-- A value that is no object. -/
def IsLeaf (value : Json) : Prop :=
  ∀ members, value ≠ .object members

variable {path : List Text} {value part left : Json} {name : Text}

theorem at_nil_iff : At [] part value ↔ value = part := by
  constructor
  · rintro ⟨⟩
    rfl
  · rintro rfl
    exact .here value

theorem at_cons_iff : At (name :: path) part value ↔
    ∃ members inner, value = .object members ∧ (name, inner) ∈ members ∧ At path part inner := by
  constructor
  · rintro (_ | ⟨among, inside⟩)
    exact ⟨_, _, rfl, among, inside⟩
  · rintro ⟨members, inner, rfl, among, inside⟩
    exact .member among inside

theorem sizeOf_member_lt {member : Text × Json} {members : List (Text × Json)}
    (among : member ∈ members) :
    sizeOf member.2 < 1 + sizeOf members := by
  have smaller := List.sizeOf_lt_of_mem among
  obtain ⟨name, inner⟩ := member
  rw [Prod.mk.sizeOf_spec] at smaller
  dsimp only
  omega

/-- To show something of all values, show it of leaves and of objects whose members have it. -/
theorem inductionOnMembers {motive : Json → Prop} (leaf : ∀ value, IsLeaf value → motive value)
    (object : ∀ members, (∀ member ∈ members, motive member.2) → motive (.object members)) :
    ∀ value, motive value
  | .object members => object members fun member among =>
    have := sizeOf_member_lt among
    inductionOnMembers leaf object member.2
  | .null | .bool _ | .int _ | .real _ | .text _ | .array _ => leaf _ nofun
termination_by value => sizeOf value

/-! ### Keeping -/

/-- Of a leaf nothing or all is kept. -/
theorem kept?_leaf_iff (leaf : IsLeaf value) :
    kept? value = some left ↔ value = left ∧ left.isEmpty = false := by
  rw [kept?_of_not_object leaf, Option.filter_eq_some_iff, Option.some_inj, Bool.not_eq_true']

theorem kept?_object_iff {members : List (Text × Json)} : kept? (.object members) = some left ↔
    pruneMembers members ≠ [] ∧ .object (pruneMembers members) = left := by
  rw [kept?_object]
  by_cases nothing : pruneMembers members = [] <;> simp [nothing]

/-- Only of a leaf a leaf is kept. -/
theorem isLeaf_of_kept? (kept : kept? value = some left) (leaf : IsLeaf left) : IsLeaf value := by
  rintro members rfl
  exact leaf _ (kept?_object_iff.mp kept).2.symm

/-- Only of an object an object is kept. -/
theorem exists_members_of_kept? {others : List (Text × Json)}
    (kept : kept? value = some (.object others)) :
    ∃ members, value = .object members ∧ pruneMembers members = others := by
  by_cases leaf : IsLeaf value
  · exact absurd ((kept?_leaf_iff leaf).mp kept).1 (leaf others)
  · obtain ⟨members, rfl⟩ := Classical.not_forall_not.mp leaf
    exact ⟨members, rfl, object.inj (kept?_object_iff.mp kept).2⟩

/-- What is kept is neither null nor empty. -/
theorem isEmpty_of_kept? (kept : kept? value = some left) : left.isEmpty = false := by
  rw [kept?] at kept
  split at kept
  · cases kept
  · rename_i full
    cases kept
    exact Bool.eq_false_iff.mpr full

/-- Where nothing is kept, null is left. -/
theorem prune_of_kept?_none (dropped : kept? value = none) : value.prune = .null := by
  cases value with
  | object members =>
    rw [kept?_object] at dropped
    split at dropped
    · rename_i nothing
      rw [prune, nothing]
    · cases dropped
  | text value => cases value with
    | nil => rfl
    | cons => cases dropped
  | array items => cases items with
    | nil => rfl
    | cons => cases dropped
  | null => rfl
  | _ => cases dropped

theorem kept?_eq_some_iff : kept? value = some left ↔ value.prune = left ∧ left ≠ .null := by
  constructor
  · intro kept
    have full := isEmpty_of_kept? kept
    rw [kept?] at kept
    split at kept
    · cases kept
    · refine ⟨Option.some.inj kept, ?_⟩
      rintro rfl
      cases full
  · rintro ⟨rfl, more⟩
    cases kept : kept? value with
    | none => exact absurd (prune_of_kept?_none kept) more
    | some left =>
      rw [kept?] at kept
      split at kept
      · cases kept
      · exact kept.symm

theorem mem_pruneMembers {members : List (Text × Json)} : (name, left) ∈ pruneMembers members ↔
    ∃ inner, (name, inner) ∈ members ∧ kept? inner = some left := by
  induction members with
  | nil => simp [pruneMembers]
  | cons member members ih =>
    obtain ⟨first, value⟩ := member
    rw [pruneMembers_cons, List.mem_append, ih, Option.mem_toList, Option.map_eq_some_iff]
    constructor
    · rintro (⟨_, kept, same⟩ | ⟨inner, among, kept⟩)
      · cases same
        exact ⟨value, List.mem_cons_self, kept⟩
      · exact ⟨inner, List.mem_cons_of_mem _ among, kept⟩
    · rintro ⟨inner, among, kept⟩
      rcases List.mem_cons.mp among with same | later
      · cases same
        exact .inl ⟨left, kept, rfl⟩
      · exact .inr ⟨inner, later, kept⟩

theorem keys_pruneMembers (members : List (Text × Json)) :
    (Entries.keys (pruneMembers members)).Sublist (Entries.keys members) := by
  induction members with
  | nil => exact .slnil
  | cons member members ih =>
    obtain ⟨first, value⟩ := member
    rw [pruneMembers_cons]
    cases kept? value with
    | none => exact ih.cons first
    | some left => exact ih.cons_cons first

/-! ### What stands in what is kept -/

/-- What stands further inside of what is kept stands in what is kept of a member. -/
theorem at_kept?_cons : (∃ left, kept? value = some left ∧ At (name :: path) part left) ↔
    ∃ members inner, value = .object members ∧ (name, inner) ∈ members ∧
      ∃ left, kept? inner = some left ∧ At path part left := by
  constructor
  · rintro ⟨left, kept, stands⟩
    obtain ⟨others, inner, rfl, among, inside⟩ := at_cons_iff.mp stands
    obtain ⟨members, rfl, rfl⟩ := exists_members_of_kept? kept
    obtain ⟨whole, first, kept⟩ := mem_pruneMembers.mp among
    exact ⟨members, whole, rfl, first, inner, kept, inside⟩
  · rintro ⟨members, inner, rfl, among, left, kept, inside⟩
    have stays := mem_pruneMembers.mpr ⟨inner, among, kept⟩
    exact ⟨_, kept?_object_iff.mpr ⟨List.ne_nil_of_mem stays, rfl⟩, .member stays inside⟩

/-- **What is kept of a value has the leaves that are not empty**, each at its place. -/
theorem at_kept?_iff (leaf : IsLeaf part) :
    (∃ left, kept? value = some left ∧ At path part left) ↔
      At path part value ∧ part.isEmpty = false := by
  induction path generalizing value with
  | nil =>
    simp only [at_nil_iff]
    constructor
    · rintro ⟨_, kept, rfl⟩
      exact (kept?_leaf_iff (isLeaf_of_kept? kept leaf)).mp kept
    · rintro ⟨rfl, full⟩
      exact ⟨value, (kept?_leaf_iff leaf).mpr ⟨rfl, full⟩, rfl⟩
  | cons name path ih =>
    rw [at_kept?_cons, at_cons_iff]
    constructor
    · rintro ⟨members, inner, rfl, among, stands⟩
      obtain ⟨inside, full⟩ := ih.mp stands
      exact ⟨⟨members, inner, rfl, among, inside⟩, full⟩
    · rintro ⟨⟨members, inner, rfl, among, inside⟩, full⟩
      exact ⟨members, inner, rfl, among, ih.mpr ⟨inside, full⟩⟩

/-- No empty object stands in what is kept. -/
theorem not_at_empty (kept : kept? value = some left) : ¬ At path (.object []) left := by
  intro stands
  induction path generalizing value left with
  | nil =>
    obtain rfl := at_nil_iff.mp stands
    cases isEmpty_of_kept? kept
  | cons name path ih =>
    obtain ⟨members, inner, -, -, left, kept, inside⟩ := at_kept?_cons.mp ⟨left, kept, stands⟩
    exact ih kept inside

/-- The objects in what is kept are those of the value, with some of their members in the same order. -/
theorem exists_object_of_kept? {others : List (Text × Json)} (kept : kept? value = some left)
    (stands : At path (.object others) left) :
    ∃ members, At path (.object members) value ∧
      (Entries.keys others).Sublist (Entries.keys members) := by
  induction path generalizing value left with
  | nil =>
    obtain rfl := at_nil_iff.mp stands
    obtain ⟨members, rfl, rfl⟩ := exists_members_of_kept? kept
    exact ⟨members, .here _, keys_pruneMembers members⟩
  | cons name path ih =>
    obtain ⟨members, inner, rfl, among, left, kept, inside⟩ := at_kept?_cons.mp ⟨left, kept, stands⟩
    obtain ⟨found, stands, ordered⟩ := ih kept inside
    exact ⟨found, .member among stands, ordered⟩

/-- Something is kept of a value for the sake of a leaf. -/
theorem exists_leaf_of_kept? (kept : kept? value = some left) :
    ∃ path part, IsLeaf part ∧ At path part value ∧ part.isEmpty = false := by
  induction value using inductionOnMembers generalizing left with
  | leaf value leaf =>
    obtain ⟨rfl, full⟩ := (kept?_leaf_iff leaf).mp kept
    exact ⟨[], value, leaf, .here value, full⟩
  | object members ih =>
    obtain ⟨some, -⟩ := kept?_object_iff.mp kept
    obtain ⟨⟨name, left⟩, stays⟩ := List.exists_mem_of_ne_nil _ some
    obtain ⟨inner, among, kept⟩ := mem_pruneMembers.mp stays
    obtain ⟨path, part, leaf, stands, full⟩ := ih _ among kept
    exact ⟨name :: path, part, leaf, .member among stands, full⟩

/-! ### Pruning again -/

/-- Members of which all is kept stay as they are. -/
theorem pruneMembers_eq_self {members : List (Text × Json)}
    (each : ∀ member ∈ members, kept? member.2 = some member.2) : pruneMembers members = members := by
  induction members with
  | nil => rfl
  | cons member members ih =>
    obtain ⟨first, others⟩ := List.forall_mem_cons.mp each
    obtain ⟨name, value⟩ := member
    rw [pruneMembers_cons, first, ih others]
    rfl

/-- **What is kept once is kept again.** -/
theorem kept?_kept (kept : kept? value = some left) : kept? left = some left := by
  induction value using inductionOnMembers generalizing left with
  | leaf value leaf =>
    obtain ⟨rfl, -⟩ := (kept?_leaf_iff leaf).mp kept
    exact kept
  | object members ih =>
    obtain ⟨more, rfl⟩ := kept?_object_iff.mp kept
    have same : pruneMembers (pruneMembers members) = pruneMembers members := by
      refine pruneMembers_eq_self fun (name, left) stays => ?_
      obtain ⟨inner, among, kept⟩ := mem_pruneMembers.mp stays
      exact ih _ among kept
    exact kept?_object_iff.mpr ⟨same.symm ▸ more, congrArg object same⟩

/-! ### Pruned values -/

/-- **What is left of a value** when all that is empty is dropped from it, and nothing else. -/
structure Pruned (value left : Json) : Prop where
  /-- The leaves of the value that are neither null nor an empty text or array are left, each at its
  place. Null counts as nothing left. -/
  leaf : ∀ path part, IsLeaf part →
    ((left ≠ .null ∧ At path part left) ↔
      At path part value ∧ part ≠ .null ∧ part ≠ .text [] ∧ part ≠ .array [])
  /-- No empty object is left. -/
  full : ∀ path, ¬ At path (.object []) left
  /-- Objects are left with members in the same order. -/
  order : ∀ path others, At path (.object others) left →
    ∃ members, At path (.object members) value ∧ (Entries.keys others).Sublist (Entries.keys members)
  /-- Null is left where the value has only empty leaves. -/
  nothing : left = .null ↔
    ∀ path part, IsLeaf part → At path part value → part = .null ∨ part = .text [] ∨ part = .array []
  /-- Nothing more is dropped from what is left. -/
  again : left.prune = left

theorem isEmpty_iff_of_leaf (leaf : IsLeaf part) :
    part.isEmpty = true ↔ part = .null ∨ part = .text [] ∨ part = .array [] := by
  cases part with
  | object members => exact absurd rfl (leaf members)
  | text value => cases value <;> simp [isEmpty]
  | array items => cases items <;> simp [isEmpty]
  | _ => simp [isEmpty]

/-- An object stands in no null. -/
theorem ne_null_of_at {members : List (Text × Json)} (stands : At path (.object members) value) :
    value ≠ .null := by
  rintro rfl
  cases stands

/-- **Pruning drops just what is empty.** -/
theorem pruned_prune (value : Json) : Pruned value value.prune := by
  have kept (more : value.prune ≠ .null) : kept? value = some value.prune :=
    kept?_eq_some_iff.mpr ⟨rfl, more⟩
  refine ⟨?leaf, ?full, ?order, ?nothing, ?again⟩
  case leaf =>
    intro path part leaf
    have stands : (value.prune ≠ .null ∧ At path part value.prune) ↔
        ∃ left, kept? value = some left ∧ At path part left :=
      ⟨fun ⟨more, inside⟩ => ⟨_, kept more, inside⟩, fun ⟨left, kept, inside⟩ => by
        obtain ⟨rfl, more⟩ := kept?_eq_some_iff.mp kept
        exact ⟨more, inside⟩⟩
    rw [stands, at_kept?_iff leaf, ← Bool.not_eq_true, isEmpty_iff_of_leaf leaf, not_or, not_or]
  case full =>
    intro path stands
    exact not_at_empty (kept (ne_null_of_at stands)) stands
  case order =>
    intro path others stands
    exact exists_object_of_kept? (kept (ne_null_of_at stands)) stands
  case nothing =>
    constructor
    · intro nothing path part leaf stands
      rw [← isEmpty_iff_of_leaf leaf]
      by_contra full
      obtain ⟨left, kept, -⟩ := (at_kept?_iff leaf).mpr ⟨stands, Bool.eq_false_iff.mpr full⟩
      obtain ⟨rfl, more⟩ := kept?_eq_some_iff.mp kept
      exact more nothing
    · intro empty
      by_contra more
      obtain ⟨path, part, leaf, stands, full⟩ := exists_leaf_of_kept? (kept more)
      rw [(isEmpty_iff_of_leaf leaf).mpr (empty path part leaf stands)] at full
      cases full
  case again =>
    by_cases nothing : value.prune = .null
    · rw [nothing]
      exact prune_of_kept?_none rfl
    · exact (kept?_eq_some_iff.mp (kept?_kept (kept nothing))).1

end GrokEvents.Json
