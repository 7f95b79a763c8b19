/-
**Ordered tables.**

A table maps names to values and remembers the order in which its names first came. Writing a name
again keeps its place and takes the last value.

* `get?_insert`: a written name is found, every other name is left as it was.
* `keys_insert`: a known name keeps its place, a new one comes last.
* `get?_erase`: an erased name is gone, every other name is left as it was.
-/

namespace GrokEvents

/-- The entries of a table, in order. -/
abbrev Entries (Key Value : Type) := List (Key × Value)

namespace Entries

variable {Key Value : Type} [DecidableEq Key]

/-- The names, in order. -/
def keys (entries : Entries Key Value) : List Key :=
  entries.map Prod.fst

/-- The value of the first entry under a name. -/
def get? (key : Key) : Entries Key Value → Option Value
  | [] => none
  | (name, value) :: rest => if name = key then some value else get? key rest

/-- Writes a value under a name: in place when the name is known, else at the end. -/
def insert (key : Key) (value : Value) : Entries Key Value → Entries Key Value
  | [] => [(key, value)]
  | (name, old) :: rest =>
    if name = key then (name, value) :: rest else (name, old) :: insert key value rest

/-- Drops the entries under a name. -/
def erase (key : Key) : Entries Key Value → Entries Key Value
  | [] => []
  | (name, value) :: rest => if name = key then erase key rest else (name, value) :: erase key rest

/-- Whether a name is known. -/
def has (key : Key) (entries : Entries Key Value) : Bool :=
  entries.any fun entry => entry.1 = key

/-- Writes each of the later entries, in order. -/
def extend (entries later : Entries Key Value) : Entries Key Value :=
  later.foldl (fun table entry => insert entry.1 entry.2 table) entries

/-- The table of a list of entries, in which a later entry of a name takes the place of an
earlier one. -/
def ofList (entries : List (Key × Value)) : Entries Key Value :=
  extend [] entries

/-! ## Laws -/

theorem get?_cons_self (key : Key) (value : Value) (rest : Entries Key Value) :
    get? key ((key, value) :: rest) = some value := if_pos rfl

theorem get?_cons_of_ne {key name : Key} (different : name ≠ key) (value : Value)
    (rest : Entries Key Value) : get? key ((name, value) :: rest) = get? key rest := if_neg different

theorem get?_insert (key other : Key) (value : Value) :
    ∀ entries : Entries Key Value,
      get? other (insert key value entries) = if key = other then some value else get? other entries
  | [] => rfl
  | (name, old) :: rest => by
    by_cases same : name = key
    · subst same
      by_cases found : name = other <;> simp [insert, get?, found]
    · by_cases found : name = other
      · subst found
        have different : ¬ key = name := fun equal => same equal.symm
        simp [insert, get?, same, different]
      · simp [insert, get?, same, found, get?_insert key other value rest]

theorem keys_insert (key : Key) (value : Value) :
    ∀ entries : Entries Key Value,
      keys (insert key value entries) =
        if key ∈ keys entries then keys entries else keys entries ++ [key]
  | [] => by simp [keys, insert]
  | (name, old) :: rest => by
    by_cases same : name = key
    · subst same
      simp [keys, insert]
    · have different : ¬ key = name := fun equal => same equal.symm
      have tail := keys_insert key value rest
      by_cases known : key ∈ keys rest
      · rw [if_pos known] at tail
        simp only [keys] at tail known ⊢
        simp [insert, same, tail, known]
      · rw [if_neg known] at tail
        simp only [keys] at tail known ⊢
        simp [insert, same, tail, known, different]

theorem get?_erase (key other : Key) :
    ∀ entries : Entries Key Value,
      get? other (erase key entries) = if key = other then none else get? other entries
  | [] => by simp [erase, get?]
  | (name, value) :: rest => by
    have tail := get?_erase key other rest
    by_cases same : name = key
    · subst same
      by_cases found : name = other
      · simp_all [erase]
      · simp_all [erase, get?]
    · by_cases found : name = other
      · subst found
        have different : ¬ key = name := fun equal => same equal.symm
        simp [erase, get?, same, different]
      · simp [erase, get?, same, tail, found]

theorem erase_eq_filter (key : Key) (entries : Entries Key Value) :
    erase key entries = entries.filter fun entry => entry.1 ≠ key := by
  induction entries with
  | nil => rfl
  | cons entry entries ih =>
    rw [erase, ih, List.filter_cons]
    by_cases same : entry.1 = key <;> simp [same]

/-- Of two tables one behind the other, the first counts where it knows the name. -/
theorem get?_append (key : Key) (entries later : Entries Key Value) :
    get? key (entries ++ later) = (get? key entries).or (get? key later) := by
  induction entries with
  | nil => rfl
  | cons entry entries ih =>
    rw [List.cons_append, get?, get?]
    by_cases same : entry.1 = key
    · rw [if_pos same, if_pos same]
      rfl
    · rw [if_neg same, if_neg same, ih]

theorem get?_of_mem {key : Key} {value : Value} {entries : Entries Key Value}
    (distinct : (keys entries).Nodup) (member : (key, value) ∈ entries) :
    get? key entries = some value := by
  induction entries with
  | nil => cases member
  | cons entry entries ih =>
    obtain ⟨fresh, distinct⟩ := List.nodup_cons.mp distinct
    rw [get?]
    rcases List.mem_cons.mp member with rfl | later
    · rw [if_pos rfl]
    · have different : ¬ entry.1 = key := by
        rintro rfl
        exact fresh (List.mem_map.mpr ⟨_, later, rfl⟩)
      rw [if_neg different]
      exact ih distinct later

theorem mem_of_get? {key : Key} {value : Value} {entries : Entries Key Value}
    (found : get? key entries = some value) : (key, value) ∈ entries := by
  induction entries with
  | nil => cases found
  | cons entry entries ih =>
    rw [get?] at found
    by_cases same : entry.1 = key
    · rw [if_pos same] at found
      obtain rfl := Option.some.inj found
      subst same
      exact List.mem_cons_self
    · rw [if_neg same] at found
      exact List.mem_cons_of_mem _ (ih found)

theorem get?_of_not_mem {key : Key} {entries : Entries Key Value} (unknown : key ∉ keys entries) :
    get? key entries = none := by
  cases found : get? key entries with
  | none => rfl
  | some value => exact absurd (List.mem_map_of_mem (mem_of_get? found)) unknown

/-- A name that is not known yet comes last. -/
theorem insert_of_not_mem {key : Key} (value : Value) {entries : Entries Key Value}
    (unknown : key ∉ keys entries) : insert key value entries = entries ++ [(key, value)] := by
  induction entries with
  | nil => rfl
  | cons entry entries ih =>
    rw [keys, List.map_cons, List.mem_cons, not_or] at unknown
    obtain ⟨different, unknown⟩ := unknown
    rw [insert, if_neg (Ne.symm different), ih unknown]
    rfl

end Entries

end GrokEvents
