/-
**What pruning keeps.**

Pruning keeps a value or drops it, and of an object it keeps what it keeps of its members. What
stands in a value at any depth is what its items and members hold.

* `Full`: nothing in a value is empty.
* `kept?_object`: what is kept of an object.
* `get?_pruneMembers`: a member is found where something of it is kept.
-/

import GrokEvents.Event.Prune

namespace GrokEvents.Json

/-! ### Depth -/

/-- A value that stands in another, at any depth. -/
inductive Within (part : Json) : Json → Prop
  | self : Within part part
  | item {items : List Json} {item : Json} (among : item ∈ items) (inside : Within part item) :
      Within part (.array items)
  | member {members : List (Text × Json)} {member : Text × Json} (among : member ∈ members)
      (inside : Within part member.2) : Within part (.object members)

/-- A value that is not empty and holds nothing that is, at any depth. -/
def Full (value : Json) : Prop :=
  ∀ part, Within part value → part.isEmpty = false

theorem full_text {value : Text} (nonempty : value ≠ []) : Full (.text value) := by
  rintro part ⟨⟩
  cases value with
  | nil => exact absurd rfl nonempty
  | cons => rfl

theorem full_int (value : Int) : Full (.int value) := by
  rintro part ⟨⟩
  rfl

theorem full_array {items : List Json} (nonempty : items ≠ []) (each : ∀ item ∈ items, item.Full) :
    Full (.array items) := by
  intro part within
  cases within with
  | self =>
    cases items with
    | nil => exact absurd rfl nonempty
    | cons => rfl
  | item among inside => exact each _ among part inside

theorem full_object {members : List (Text × Json)} (nonempty : members ≠ [])
    (each : ∀ member ∈ members, member.2.Full) : Full (.object members) := by
  intro part within
  cases within with
  | self =>
    cases members with
    | nil => exact absurd rfl nonempty
    | cons => rfl
  | member among inside => exact each _ among part inside

/-! ### Keeping -/

/-- What pruning keeps of a value, if anything. -/
def kept? (value : Json) : Option Json :=
  if value.prune.isEmpty then none else some value.prune

theorem kept?_of_not_object {value : Json} (leaf : ∀ members, value ≠ .object members) :
    kept? value = (some value).filter fun value => !value.isEmpty := by
  unfold kept?
  cases full : value.isEmpty with
  | false =>
    rw [prune_of_not_object leaf full, Option.filter_some, full]
    rfl
  | true =>
    have dropped : value.prune = .null := by
      match value with
      | .null | .text [] | .array [] => rfl
      | .object members => exact absurd rfl (leaf members)
    rw [dropped, Option.filter_some, full]
    rfl

theorem pruneMembers_cons (name : Text) (value : Json) (others : List (Text × Json)) :
    pruneMembers ((name, value) :: others) =
      ((kept? value).map (name, ·)).toList ++ pruneMembers others := by
  rw [pruneMembers, kept?]
  cases value.prune.isEmpty <;> rfl

/-- What is kept of an object is what is kept of its members, unless that is nothing. -/
theorem kept?_object (members : List (Text × Json)) : kept? (.object members) =
    if pruneMembers members = [] then none else some (.object (pruneMembers members)) := by
  rw [kept?, prune]
  cases pruneMembers members <;> rfl

theorem get?_pruneMembers {members : List (Text × Json)} (distinct : (Entries.keys members).Nodup)
    (name : Text) :
    Entries.get? name (pruneMembers members) = (Entries.get? name members).bind kept? := by
  induction members with
  | nil => rfl
  | cons member members ih =>
    obtain ⟨fresh, distinct⟩ := List.nodup_cons.mp distinct
    have found := ih distinct
    rw [pruneMembers_cons, Entries.get?_append, Entries.get?, found]
    by_cases same : member.1 = name
    · subst same
      rw [if_pos rfl, Entries.get?_of_not_mem fresh, Option.bind_some]
      cases kept? member.2 <;> simp [Entries.get?]
    · rw [if_neg same]
      cases kept? member.2 <;> simp [Entries.get?, same]

end GrokEvents.Json
