/-
**Schemas of events.**

A schema says which members an object may have, in which order, and of which type. A draft of an
event has every member that its schema declares, with null for those that nothing is known of; once
it is pruned, it conforms to the schema.

* `Conforms`: a value is of a declared type.
* `Draft.kept`: what pruning keeps of a draft conforms to its schema and is full.
* `Draft.lookUp_kept`: pruning keeps every leaf that is not empty at its place.
-/

import GrokEvents.Proofs.Event.Pruning
import GrokEvents.Event.Explanation

namespace GrokEvents.Event

/-! ### Schemas -/

/-- A declared type. -/
inductive Shape where
  | text
  | int
  /-- An object of texts, under any names. -/
  | table
  | list (item : Shape)
  /-- An object that may have the declared members. -/
  | object (declared : List (String × Shape))

mutual

/-- A value is of a declared type. -/
inductive Conforms : Shape → Json → Prop
  | text (value : Text) : Conforms .text (.text value)
  | int (value : Int) : Conforms .int (.int value)
  | table (fields : Fields) : Conforms .table (Json.ofFields fields)
  | list {item : Shape} {items : List Json} (each : ∀ value ∈ items, Conforms item value) :
      Conforms (.list item) (.array items)
  | object {declared : List (String × Shape)} {members : List (Text × Json)}
      (each : ConformingMembers declared members) : Conforms (.object declared) (.object members)

/-- Members that are some of the declared ones, in the declared order, each of its type. -/
inductive ConformingMembers : List (String × Shape) → List (Text × Json) → Prop
  | nil : ConformingMembers [] []
  | absent {entry : String × Shape} {declared : List (String × Shape)} {members : List (Text × Json)}
      (others : ConformingMembers declared members) : ConformingMembers (entry :: declared) members
  | present {name : String} {shape : Shape} {value : Json} {declared : List (String × Shape)}
      {members : List (Text × Json)} (conforms : Conforms shape value)
      (others : ConformingMembers declared members) :
      ConformingMembers ((name, shape) :: declared) ((name.toList, value) :: members)

end

theorem ConformingMembers.append {declared later : List (String × Shape)}
    {members more : List (Text × Json)} (first : ConformingMembers declared members)
    (second : ConformingMembers later more) :
    ConformingMembers (declared ++ later) (members ++ more) := by
  induction declared generalizing members with
  | nil =>
    cases first
    exact second
  | cons entry declared ih =>
    cases first with
    | absent others => exact .absent (ih others)
    | present conforms others => exact .present conforms (ih others)

theorem ConformingMembers.keys_sublist {declared : List (String × Shape)}
    {members : List (Text × Json)} (conforming : ConformingMembers declared members) :
    (Entries.keys members).Sublist ((declared.map Prod.fst).map String.toList) := by
  induction declared generalizing members with
  | nil =>
    cases conforming
    exact .slnil
  | cons entry declared ih =>
    cases conforming with
    | absent others => exact (ih others).cons _
    | present conforms others => exact (ih others).cons_cons _

/-! ### Drafts -/

mutual

/-- A value that has all that its type declares, null for what is not known. -/
inductive Draft : Shape → Json → Prop
  | null (shape : Shape) : Draft shape .null
  | text (value : Text) : Draft .text (.text value)
  | int (value : Int) : Draft .int (.int value)
  | list {item : Shape} {items : List Json} (each : ∀ value ∈ items, Conforms item value ∧ value.Full) :
      Draft (.list item) (.array items)
  | object {declared : List (String × Shape)} {members : List (Text × Json)}
      (distinct : (declared.map Prod.fst).Nodup) (each : DraftMembers declared members) :
      Draft (.object declared) (.object members)

/-- Members that are all the declared ones, each a draft of its type. -/
inductive DraftMembers : List (String × Shape) → List (Text × Json) → Prop
  | nil : DraftMembers [] []
  | cons {name : String} {shape : Shape} {value : Json} {declared : List (String × Shape)}
      {members : List (Text × Json)} (first : Draft shape value)
      (others : DraftMembers declared members) :
      DraftMembers ((name, shape) :: declared) ((name.toList, value) :: members)

end

mutual

/-- What is kept of a draft conforms to its type, and nothing in it is empty. -/
theorem Draft.kept {shape : Shape} {value left : Json} (draft : Draft shape value)
    (kept : value.kept? = some left) : Conforms shape left ∧ left.Full := by
  cases draft with
  | null => cases kept
  | text value =>
    cases value with
    | nil => cases kept
    | cons char rest =>
      obtain rfl := Option.some.inj kept
      exact ⟨.text _, Json.full_text (List.cons_ne_nil _ _)⟩
  | int value =>
    obtain rfl := Option.some.inj kept
    exact ⟨.int value, Json.full_int value⟩
  | @list item items each =>
    cases items with
    | nil => cases kept
    | cons first rest =>
      obtain rfl := Option.some.inj kept
      exact ⟨.list fun value among => (each value among).1,
        Json.full_array (List.cons_ne_nil _ _) fun value among => (each value among).2⟩
  | @object declared members distinct each =>
    obtain ⟨conforming, full⟩ := each.kept
    rw [Json.kept?_object] at kept
    by_cases empty : Json.pruneMembers members = []
    · rw [if_pos empty] at kept
      cases kept
    · rw [if_neg empty] at kept
      obtain rfl := Option.some.inj kept
      exact ⟨.object conforming, Json.full_object empty full⟩

/-- What is kept of the members of a draft. -/
theorem DraftMembers.kept {declared : List (String × Shape)} {members : List (Text × Json)}
    (draft : DraftMembers declared members) : ConformingMembers declared (Json.pruneMembers members) ∧
      ∀ member ∈ Json.pruneMembers members, member.2.Full := by
  cases draft with
  | nil => exact ⟨.nil, nofun⟩
  | @cons name shape value declared members first others =>
    obtain ⟨conforming, full⟩ := others.kept
    rw [Json.pruneMembers_cons]
    cases kept : value.kept? with
    | none => exact ⟨.absent conforming, full⟩
    | some left =>
      obtain ⟨conforms, leftFull⟩ := first.kept kept
      refine ⟨.present conforms conforming, fun member among => ?_⟩
      rcases List.mem_cons.mp among with rfl | later
      · exact leftFull
      · exact full member later

end

/-! ### Leaves of drafts -/

theorem DraftMembers.keys_eq {declared : List (String × Shape)} {members : List (Text × Json)}
    (draft : DraftMembers declared members) :
    Entries.keys members = (declared.map Prod.fst).map String.toList := by
  induction declared generalizing members with
  | nil =>
    cases draft
    rfl
  | cons entry declared ih =>
    cases draft with
    | cons first others => exact congrArg _ (ih others)

theorem DraftMembers.nodup_keys {declared : List (String × Shape)} {members : List (Text × Json)}
    (draft : DraftMembers declared members) (distinct : (declared.map Prod.fst).Nodup) :
    (Entries.keys members).Nodup := by
  rw [draft.keys_eq]
  exact List.Pairwise.map _ (fun _ _ different same => different (String.toList_inj.mp same)) distinct

theorem DraftMembers.exists_draft {declared : List (String × Shape)} {members : List (Text × Json)}
    (draft : DraftMembers declared members) {member : Text × Json} (among : member ∈ members) :
    ∃ shape, Draft shape member.2 := by
  induction declared generalizing members with
  | nil =>
    cases draft
    cases among
  | cons entry declared ih =>
    cases draft with
    | cons first others =>
      rcases List.mem_cons.mp among with rfl | later
      · exact ⟨_, first⟩
      · exact ih others later

theorem lookUp_kept_object (members : List (Text × Json)) (name : String) (path : List String) :
    ((Json.object members).kept?.bind fun left => lookUp left (name :: path)) =
      lookUp (.object (Json.pruneMembers members)) (name :: path) := by
  rw [Json.kept?_object]
  cases Json.pruneMembers members <;> rfl

/-- What is found in what is kept of a draft is what is kept of what is found in it. -/
theorem Draft.lookUp_kept {shape : Shape} {value : Json} (draft : Draft shape value)
    (path : List String) :
    (value.kept?.bind fun left => lookUp left path) = (lookUp value path).bind Json.kept? := by
  induction path generalizing shape value with
  | nil =>
    show value.kept?.bind some = value.kept?
    cases value.kept? <;> rfl
  | cons name path ih =>
    cases draft with
    | null => rfl
    | text value => cases value <;> rfl
    | int value => rfl
    | @list item items each => cases items <;> rfl
    | @object declared members distinct each =>
      rw [lookUp_kept_object]
      show ((Entries.get? name.toList (Json.pruneMembers members)).bind fun left => lookUp left path) =
        ((Entries.get? name.toList members).bind fun member => lookUp member path).bind Json.kept?
      rw [Json.get?_pruneMembers (each.nodup_keys distinct)]
      cases known : Entries.get? name.toList members with
      | none => rfl
      | some member =>
        obtain ⟨inner, drafted⟩ := each.exists_draft (Entries.mem_of_get? known)
        exact ih drafted

end GrokEvents.Event
