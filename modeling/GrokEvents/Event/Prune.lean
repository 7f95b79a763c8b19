/-
**Pruning.**

Empty members are dropped from objects at every depth, and objects that end up empty with them.
Arrays are kept as they are.

* `prune_of_not_object`: a value that is no object is kept as it is, unless it is empty.
-/

import GrokEvents.Json.Basic

namespace GrokEvents.Json

mutual

/-- What is left of a value, null when nothing is. -/
def prune : Json → Json
  | .object members =>
    match pruneMembers members with
    | [] => .null
    | kept => .object kept
  | .text [] | .array [] => .null
  | value => value

/-- What is left of the members of an object. -/
def pruneMembers : List (Text × Json) → List (Text × Json)
  | [] => []
  | (name, value) :: rest =>
    let left := prune value
    if left.isEmpty then pruneMembers rest else (name, left) :: pruneMembers rest

end

theorem prune_of_not_object {value : Json} (leaf : ∀ members, value ≠ .object members)
    (full : value.isEmpty = false) : prune value = value := by
  cases value with
  | object members => exact absurd rfl (leaf members)
  | text value => cases value <;> simp_all [prune, isEmpty]
  | array items => cases items <;> simp_all [prune, isEmpty]
  | _ => simp [prune]

end GrokEvents.Json
