/-
**Writing tables over tables.**

A table is written over another one entry by entry: a known name keeps its place and takes the new
value, a new name comes last.

* `keys_prefix_extend`, `mem_keys_extend`, `get?_extend_of_not_mem`: the names and values of what is
  written.
* `get?_extend`, `keys_extend`: the value of a name, and the order of the names, in what is written.
* `extend_of_beginning`: a table that is written over a beginning of its names is what is written.
* `extend_ofList`: a table of entries is written over another one like the entries themselves.
-/

import GrokEvents.Entries
import Mathlib.Data.List.Induction
import Mathlib.Data.List.Nodup

namespace GrokEvents.Entries

variable {Key Value : Type} [DecidableEq Key]

theorem has_eq_isSome (key : Key) (entries : Entries Key Value) :
    has key entries = (get? key entries).isSome := by
  induction entries with
  | nil => rfl
  | cons entry entries ih =>
    rw [get?]
    by_cases same : entry.1 = key
    · rw [if_pos same]
      simp [has, same]
    · rw [if_neg same, ← ih]
      simp [has, same]

theorem isSome_get?_iff {key : Key} {entries : Entries Key Value} :
    (get? key entries).isSome = true ↔ key ∈ keys entries := by
  rw [← has_eq_isSome, has, List.any_eq_true, keys, List.mem_map]
  simp only [decide_eq_true_eq]

theorem keys_prefix_insert (key : Key) (value : Value) (entries : Entries Key Value) :
    keys entries <+: keys (insert key value entries) := by
  rw [keys_insert]
  split
  · exact List.prefix_rfl
  · exact List.prefix_append _ _

theorem nodup_keys_insert {entries : Entries Key Value} (distinct : (keys entries).Nodup) (key : Key)
    (value : Value) : (keys (insert key value entries)).Nodup := by
  rw [keys_insert]
  split
  · exact distinct
  · rename_i unknown
    exact List.nodup_middle.mpr (List.nodup_cons.mpr ⟨by simpa using unknown, by simpa using distinct⟩)

theorem mem_keys_insert {key name : Key} {value : Value} {entries : Entries Key Value}
    (member : name ∈ keys (insert key value entries)) : name = key ∨ name ∈ keys entries := by
  rw [keys_insert] at member
  split at member
  · exact .inr member
  · exact (List.mem_append.mp member).symm.imp List.mem_singleton.mp id

section Extend

variable (later entries : Entries Key Value)

/-- The names of a table stay in front of those that are written over it. -/
theorem keys_prefix_extend : keys entries <+: keys (extend entries later) := by
  induction later generalizing entries with
  | nil => exact List.prefix_rfl
  | cons entry later ih => exact (keys_prefix_insert entry.1 entry.2 entries).trans (ih _)

theorem nodup_keys_extend {entries : Entries Key Value} (distinct : (keys entries).Nodup) :
    (keys (extend entries later)).Nodup := by
  induction later generalizing entries with
  | nil => exact distinct
  | cons entry later ih => exact ih (nodup_keys_insert distinct entry.1 entry.2)

theorem mem_keys_extend {later entries : Entries Key Value} {name : Key}
    (member : name ∈ keys (extend entries later)) : name ∈ keys entries ∨ name ∈ keys later := by
  induction later generalizing entries with
  | nil => exact .inl member
  | cons entry later ih =>
    have named : keys (entry :: later) = entry.1 :: keys later := rfl
    rw [named, List.mem_cons]
    rcases ih member with inserted | new
    · exact (mem_keys_insert inserted).elim (fun same => .inr (.inl same)) .inl
    · exact .inr (.inr new)

/-- What is written under other names does not matter to a name. -/
theorem get?_extend_of_not_mem {later : Entries Key Value} {name : Key} (unnamed : name ∉ keys later) :
    get? name (extend entries later) = get? name entries := by
  induction later generalizing entries with
  | nil => rfl
  | cons entry later ih =>
    obtain ⟨different, others⟩ := List.ne_and_not_mem_of_not_mem_cons unnamed
    show get? name (extend (insert entry.1 entry.2 entries) later) = _
    rw [ih _ others, get?_insert, if_neg different.symm]

end Extend

/-- What is written over a table counts for the names that it holds. -/
theorem get?_extend {later : Entries Key Value} (distinct : (keys later).Nodup)
    (entries : Entries Key Value) (name : Key) :
    get? name (extend entries later) = (get? name later).or (get? name entries) := by
  induction later generalizing entries with
  | nil => rfl
  | cons entry later ih =>
    obtain ⟨fresh, distinct⟩ := List.nodup_cons.mp distinct
    show get? name (extend (insert entry.1 entry.2 entries) later) = _
    rw [ih distinct, get?_insert, get?]
    by_cases same : entry.1 = name
    · have absent : get? name later = none := get?_of_not_mem (same ▸ fresh)
      rw [if_pos same, if_pos same, absent]
      rfl
    · rw [if_neg same, if_neg same]

/-- The names that a table does not hold come behind its own, in the order in which they first
appear. -/
theorem keys_extend [BEq Key] [LawfulBEq Key] (later entries : Entries Key Value) :
    keys (extend entries later) =
      keys entries ++ ((keys later).filter fun name => name ∉ keys entries).eraseDups := by
  induction later generalizing entries with
  | nil => exact (List.append_nil _).symm
  | cons entry later ih =>
    have named : keys (entry :: later) = entry.1 :: keys later := rfl
    show keys (extend (insert entry.1 entry.2 entries) later) = _
    rw [ih, keys_insert, named]
    by_cases known : entry.1 ∈ keys entries
    · rw [if_pos known, List.filter_cons_of_neg (by simpa using known)]
    · have others : (keys later).filter (fun name => name ∉ keys entries ++ [entry.1]) =
          ((keys later).filter fun name => name ∉ keys entries).filter fun name =>
            !name == entry.1 := by
        rw [List.filter_filter]
        refine List.filter_congr fun name _ => ?_
        by_cases same : name = entry.1 <;> simp [same]
      rw [if_neg known, List.filter_cons_of_pos (by simpa using known), List.eraseDups_cons, others,
        ← List.append_cons]

/-- Behind entries of other names, a name is written as without them. -/
theorem insert_append {key : Key} {value : Value} {before : Entries Key Value}
    (unknown : key ∉ keys before) (entries : Entries Key Value) :
    insert key value (before ++ entries) = before ++ insert key value entries := by
  induction before with
  | nil => rfl
  | cons entry before ih =>
    obtain ⟨different, others⟩ := List.ne_and_not_mem_of_not_mem_cons unknown
    rw [List.cons_append, insert, if_neg different.symm, ih others]
    rfl

/-- **A table that is written over a beginning of its names is what is written**, behind what was
written before. The entries are written one by one, each in the place of the first one that is left
or, when none is, at the end. -/
theorem extend_append_of_beginning {done entries whole : Entries Key Value}
    (beginning : keys entries <+: keys whole) (distinct : (keys (done ++ whole)).Nodup) :
    extend (done ++ entries) whole = done ++ whole := by
  induction whole generalizing done entries with
  | nil =>
    have empty : entries = [] := List.map_eq_nil_iff.mp (List.prefix_nil.mp beginning)
    rw [empty]
    rfl
  | cons entry whole ih =>
    have names : keys (done ++ entry :: whole) = keys done ++ entry.1 :: keys whole := List.map_append
    have fresh : entry.1 ∉ keys done := by
      rw [names, List.nodup_middle, List.nodup_cons, List.mem_append, not_or] at distinct
      exact distinct.1.1
    have behind (rest : Entries Key Value) : done ++ entry :: rest = done ++ [entry] ++ rest :=
      List.append_cons done entry rest
    rw [behind whole] at distinct
    have written : ∃ rest, insert entry.1 entry.2 (done ++ entries) = done ++ [entry] ++ rest ∧
        keys rest <+: keys whole := by
      rw [insert_append fresh]
      cases entries with
      | nil => exact ⟨[], (List.append_nil _).symm, List.nil_prefix⟩
      | cons first rest =>
        obtain ⟨same, others⟩ := List.cons_prefix_cons.mp beginning
        refine ⟨rest, ?_, others⟩
        rw [insert, if_pos same, same, ← behind]
    obtain ⟨rest, written, others⟩ := written
    show extend (insert entry.1 entry.2 (done ++ entries)) whole = done ++ entry :: whole
    rw [written, ih others distinct, ← behind]

/-- A table that is written over a beginning of its names is what is written. -/
theorem extend_of_beginning {entries whole : Entries Key Value}
    (beginning : keys entries <+: keys whole) (distinct : (keys whole).Nodup) :
    extend entries whole = whole := by
  have written : extend ([] ++ entries) whole = [] ++ whole :=
    extend_append_of_beginning beginning distinct
  exact written

/-! ### Entries and tables of entries -/

/-- Of two values under one name the last one counts. -/
theorem insert_insert (key : Key) (first second : Value) (entries : Entries Key Value) :
    insert key second (insert key first entries) = insert key second entries := by
  induction entries with
  | nil => simp [insert]
  | cons entry entries ih =>
    by_cases same : entry.1 = key
    · simp [insert, same]
    · simp [insert, same, ih]

/-- A known name may be written before another name or after it. -/
theorem insert_comm {key name : Key} (different : name ≠ key) {entries : Entries Key Value}
    (known : key ∈ keys entries) (value other : Value) :
    insert key value (insert name other entries) = insert name other (insert key value entries) := by
  induction entries with
  | nil => cases known
  | cons entry entries ih =>
    by_cases isKey : entry.1 = key
    · have notName : ¬ entry.1 = name := fun isName => different (isName.symm.trans isKey)
      simp only [insert, if_pos isKey, if_neg notName]
    · by_cases isName : entry.1 = name
      · simp only [insert, if_neg isKey, if_pos isName]
      · have later : key ∈ keys entries := (List.mem_cons.mp known).resolve_left (Ne.symm isKey)
        simp only [insert, if_neg isKey, if_neg isName, ih later]

theorem insert_extend {key : Key} {entries later : Entries Key Value} (known : key ∈ keys entries)
    (unnamed : key ∉ keys later) (value : Value) :
    insert key value (extend entries later) = extend (insert key value entries) later := by
  induction later generalizing entries with
  | nil => rfl
  | cons entry later ih =>
    obtain ⟨different, others⟩ := List.ne_and_not_mem_of_not_mem_cons unnamed
    have stays := (keys_prefix_insert entry.1 entry.2 entries).subset known
    show insert key value (extend (insert entry.1 entry.2 entries) later) =
      extend (insert entry.1 entry.2 (insert key value entries)) later
    rw [ih stays others, insert_comm different.symm known]

/-- To write one more entry into a table and the table over another one, the entry may come last. -/
theorem extend_insert {later : Entries Key Value} (distinct : (keys later).Nodup) (key : Key)
    (value : Value) (entries : Entries Key Value) :
    extend entries (insert key value later) = insert key value (extend entries later) := by
  induction later generalizing entries with
  | nil => rfl
  | cons entry later ih =>
    obtain ⟨fresh, distinct⟩ := List.nodup_cons.mp distinct
    have unfolded : extend entries (entry :: later) =
        extend (insert entry.1 entry.2 entries) later := rfl
    rw [insert, unfolded]
    by_cases same : entry.1 = key
    · subst same
      have known : entry.1 ∈ keys (insert entry.1 entry.2 entries) := by
        rw [keys_insert]
        split
        · assumption
        · exact List.mem_append_right _ List.mem_cons_self
      rw [if_pos rfl, insert_extend known fresh, insert_insert]
      rfl
    · rw [if_neg same]
      exact ih distinct _

/-- **A table of entries is written over another one like the entries themselves.** -/
theorem extend_ofList (entries : Entries Key Value) (later : List (Key × Value)) :
    extend entries (ofList later) = extend entries later := by
  induction later using List.reverseRecOn with
  | nil => rfl
  | append_singleton later entry ih =>
    have last (table : Entries Key Value) :
        extend table (later ++ [entry]) = insert entry.1 entry.2 (extend table later) :=
      List.foldl_append
    have distinct : (keys (ofList later)).Nodup := nodup_keys_extend later List.nodup_nil
    rw [ofList, last, ← ofList, extend_insert distinct, ih, last]

end GrokEvents.Entries
