/-
**The sources asked for last are kept.**

A compiler keeps the patterns of the distinct sources that it was asked for last, up to the capacity
of its cache. A source that ends in a fault is passed over, and what is kept is given without being
expanded again.

* `recent`: the distinct sources that compiled, the one asked for last first.
* `compile_cases`: a call is answered from the cache, compiled or ends in a fault.
* `Tracks.compile`, `tracks_served`: one call, and any calls in a row, leave the last sources in the
  cache.
* `keepsLast_of_calls`: how a compiler stands after any calls since it was built.
-/

import GrokEvents.Proofs.Entries
import GrokEvents.Proofs.Service.History
import Mathlib.Data.Finset.Card
import Mathlib.Data.List.Dedup
import Mathlib.Data.List.Induction

namespace GrokEvents

open Grok

/-! ### Names in the order of their last use -/

section Names

variable {Name : Type} [DecidableEq Name]

/-- A name that is used again moves to the end. -/
theorem dedup_concat (names : List Name) (name : Name) :
    (names ++ [name]).dedup = names.dedup.filter (· ≠ name) ++ [name] := by
  induction names with
  | nil => rfl
  | cons first names ih =>
    rw [List.cons_append]
    by_cases same : first = name
    · subst same
      rw [List.dedup_cons_of_mem (by simp), ih]
      by_cases member : first ∈ names
      · rw [List.dedup_cons_of_mem member]
      · rw [List.dedup_cons_of_notMem member, List.filter_cons_of_neg (by simp)]
    · by_cases member : first ∈ names
      · rw [List.dedup_cons_of_mem (by simp [member]), List.dedup_cons_of_mem member, ih]
      · rw [List.dedup_cons_of_notMem (by simp [member, same]), List.dedup_cons_of_notMem member, ih,
          List.filter_cons_of_pos (by simpa using same), List.cons_append]

/-- To drop a name from the first of some names is to drop it from all of them, but for the one that
moves up. -/
theorem take_filter_take {names : List Name} (distinct : names.Nodup) (name : Name) (count : Nat) :
    ((names.take (count + 1)).filter (· ≠ name)).take count =
      (names.filter (· ≠ name)).take count := by
  induction names generalizing count with
  | nil => rfl
  | cons first names ih =>
    obtain ⟨fresh, distinct⟩ := List.nodup_cons.mp distinct
    rw [List.take_succ_cons]
    by_cases same : first = name
    · subst same
      have others : ∀ other ∈ names, decide (other ≠ first) = true := fun other member =>
        decide_eq_true fun equal => fresh (equal ▸ member)
      rw [List.filter_cons_of_neg (by simp), List.filter_cons_of_neg (by simp),
        List.filter_eq_self.mpr others,
        List.filter_eq_self.mpr fun other member => others other (List.mem_of_mem_take member),
        List.take_take, Nat.min_self]
    · rw [List.filter_cons_of_pos (by simpa using same),
        List.filter_cons_of_pos (by simpa using same)]
      cases count with
      | zero => rfl
      | succ count => rw [List.take_succ_cons, List.take_succ_cons, ih distinct]

/-- Of the names in front, with one more put before them, those in front are kept. -/
theorem take_cons_filter_take {names : List Name} (distinct : names.Nodup) (name : Name) (count : Nat) :
    (name :: (names.take count).filter (· ≠ name)).take count =
      (name :: names.filter (· ≠ name)).take count := by
  cases count with
  | zero => rfl
  | succ count => rw [List.take_succ_cons, List.take_succ_cons, take_filter_take distinct]

end Names

/-! ### What is kept -/

namespace Grok.Cache

variable {Key Value : Type} [DecidableEq Key]

/-- The questions whose answers are kept, the one asked for last first. -/
def keys (cache : Cache Key Value) : List Key :=
  Entries.keys cache.entries

theorem keys_erase (key : Key) (entries : Entries Key Value) :
    Entries.keys (Entries.erase key entries) = (Entries.keys entries).filter (· ≠ key) := by
  rw [Entries.erase_eq_filter, Entries.keys, Entries.keys, List.filter_map]
  rfl

theorem keys_hit (cache : Cache Key Value) (key : Key) (value : Value) :
    (cache.hit key value).keys = key :: cache.keys.filter (· ≠ key) :=
  congrArg (key :: ·) (keys_erase key cache.entries)

theorem keys_remember (cache : Cache Key Value) (key : Key) (value : Value) :
    (cache.remember key value).keys = (key :: cache.keys.filter (· ≠ key)).take cache.capacity := by
  rw [keys, remember, Entries.keys, List.map_take, keys, ← keys_erase]
  rfl

end Grok.Cache

section Engine

variable [Expr.Engine]

/-! ### The sources asked for last -/

namespace Grok

/-- Whether a source compiles to a pattern, be it one that matches nothing. -/
def Pattern.compiles (registry : Registry) (passes : Nat) (source : Text) : Bool :=
  (Pattern.compile registry passes source).value.isOk

end Grok

section Recent

variable {registry : Registry} {passes : Nat} {calls : List Text} {source : Text}

/-- The distinct sources among some calls that compiled, the one asked for last first. -/
def recent (registry : Registry) (passes : Nat) (calls : List Text) : List Text :=
  (calls.filter (Pattern.compiles registry passes)).dedup.reverse

theorem nodup_recent : (recent registry passes calls).Nodup :=
  List.nodup_reverse.mpr (List.nodup_dedup _)

theorem length_recent : (recent registry passes calls).length =
    (calls.filter (Pattern.compiles registry passes)).toFinset.card := by
  rw [recent, List.length_reverse, List.card_toFinset]

theorem recent_concat (compiles : Pattern.compiles registry passes source = true) :
    recent registry passes (calls ++ [source]) =
      source :: (recent registry passes calls).filter (· ≠ source) := by
  rw [recent, List.filter_append, List.filter_singleton, compiles, cond_true, dedup_concat,
    List.reverse_append, ← List.filter_reverse]
  rfl

theorem recent_concat_of_fault (faults : Pattern.compiles registry passes source = false) :
    recent registry passes (calls ++ [source]) = recent registry passes calls := by
  rw [recent, List.filter_append, List.filter_singleton, faults, cond_false, List.append_nil,
    recent]

end Recent

/-! ### One call -/

namespace Grok.Compiler

/-- **A call is answered from the cache, compiled or ends in a fault**, and leaves notices in the last
two cases only. -/
theorem compile_cases (compiler : Compiler) (source : Text) :
    (∃ pattern, compiler.cache.get? source = some pattern ∧ compiler.compile source =
      pure (.ok pattern, { compiler with cache := compiler.cache.hit source pattern })) ∨
    (compiler.cache.get? source = none ∧ ∃ pattern,
      (Pattern.compile compiler.registry compiler.passes source).value = .ok pattern ∧
        (compiler.compile source).value =
          (.ok pattern, { compiler with cache := compiler.cache.miss.remember source pattern })) ∨
    (compiler.cache.get? source = none ∧ ∃ fault,
      (Pattern.compile compiler.registry compiler.passes source).value = .error fault ∧
        (compiler.compile source).value =
          (.error fault, { compiler with cache := compiler.cache.miss })) := by
  cases found : compiler.cache.get? source with
  | some pattern => exact .inl ⟨pattern, rfl, compile_of_hit found⟩
  | none =>
    unfold compile
    rw [found]
    dsimp only
    rw [Logged.value_bind]
    cases (Pattern.compile compiler.registry compiler.passes source).value with
    | ok pattern => exact .inr (.inl ⟨rfl, pattern, rfl, rfl⟩)
    | error fault => exact .inr (.inr ⟨rfl, fault, rfl, rfl⟩)

theorem capacity_compile (compiler : Compiler) (source : Text) :
    (compiler.compile source).value.2.cache.capacity = compiler.cache.capacity := by
  rcases compiler.compile_cases source with ⟨_, -, call⟩ | ⟨-, _, -, call⟩ | ⟨-, _, -, call⟩ <;>
    rw [call] <;> rfl

/-- A call that is answered from the cache: it counts as a hit. -/
def IsHit (compiler : Compiler) (source : Text) : Prop :=
  (compiler.compile source).value.2.cache.hits = compiler.cache.hits + 1 ∧
    (compiler.compile source).value.2.cache.misses = compiler.cache.misses

/-- A call that is not: it counts as a miss. -/
def IsMiss (compiler : Compiler) (source : Text) : Prop :=
  (compiler.compile source).value.2.cache.hits = compiler.cache.hits ∧
    (compiler.compile source).value.2.cache.misses = compiler.cache.misses + 1

theorem IsHit.not_isMiss {compiler : Compiler} {source : Text} (hit : compiler.IsHit source) :
    ¬ compiler.IsMiss source := by
  intro miss
  have counted := hit.1
  rw [miss.1] at counted
  omega

/-- What is kept decides whether a call is a hit or a miss. -/
theorem isHit_or_isMiss (compiler : Compiler) (source : Text) :
    (source ∈ compiler.cache.keys ∧ compiler.IsHit source) ∨
      (source ∉ compiler.cache.keys ∧ compiler.IsMiss source) := by
  rw [Cache.keys, ← Entries.isSome_get?_iff]
  rcases compiler.compile_cases source with
    ⟨pattern, kept, call⟩ | ⟨missing, pattern, -, call⟩ | ⟨missing, fault, -, call⟩
  · refine .inl ⟨Option.isSome_iff_exists.mpr ⟨pattern, kept⟩, ?_⟩
    rw [IsHit, call]
    exact ⟨rfl, rfl⟩
  · refine .inr ⟨Option.not_isSome_iff_eq_none.mpr missing, ?_⟩
    rw [IsMiss, call]
    exact ⟨rfl, rfl⟩
  · refine .inr ⟨Option.not_isSome_iff_eq_none.mpr missing, ?_⟩
    rw [IsMiss, call]
    exact ⟨rfl, rfl⟩

theorem isHit_iff {compiler : Compiler} {source : Text} :
    compiler.IsHit source ↔ source ∈ compiler.cache.keys := by
  rcases compiler.isHit_or_isMiss source with ⟨kept, hit⟩ | ⟨missing, miss⟩
  · exact iff_of_true hit kept
  · exact iff_of_false (fun hit => hit.not_isMiss miss) missing

theorem isMiss_iff {compiler : Compiler} {source : Text} :
    compiler.IsMiss source ↔ source ∉ compiler.cache.keys := by
  rcases compiler.isHit_or_isMiss source with ⟨kept, hit⟩ | ⟨missing, miss⟩
  · exact iff_of_false hit.not_isMiss (not_not_intro kept)
  · exact iff_of_true miss missing

end Grok.Compiler

/-! ### Calls in a row -/

/-- A compiler of a registry and a number of passes whose cache holds the last sources of some calls. -/
structure Tracks (registry : Registry) (passes capacity : Nat) (calls : List Text)
    (compiler : Compiler) :
    Prop where
  reliable : Reliable registry passes compiler
  capacity_eq : compiler.cache.capacity = capacity
  keys_eq : compiler.cache.keys = (recent registry passes calls).take capacity
  counted : compiler.cache.hits + compiler.cache.misses = calls.length

namespace Tracks

variable {registry : Registry} {passes capacity : Nat} {calls : List Text} {compiler : Compiler}

theorem fresh (registry : Registry) (passes capacity : Nat) :
    Tracks registry passes capacity [] (.fresh registry passes capacity) where
  reliable := .fresh registry passes capacity
  capacity_eq := rfl
  keys_eq := List.take_nil.symm
  counted := rfl

/-- Where a source that compiles moves to the front and what is too much is dropped, the last sources
are kept. -/
theorem keys_front (tracks : Tracks registry passes capacity calls compiler) {source : Text}
    (compiles : Pattern.compiles registry passes source = true) :
    (source :: compiler.cache.keys.filter (· ≠ source)).take capacity =
      (recent registry passes (calls ++ [source])).take capacity := by
  rw [tracks.keys_eq, recent_concat compiles, take_cons_filter_take nodup_recent]

/-- Where a kept source moves to the front, nothing is too much. -/
theorem front_of_kept (tracks : Tracks registry passes capacity calls compiler) {source : Text}
    (kept : source ∈ compiler.cache.keys) :
    (source :: compiler.cache.keys.filter (· ≠ source)).take capacity =
      source :: compiler.cache.keys.filter (· ≠ source) := by
  have size : compiler.cache.keys.length ≤ capacity := by
    rw [tracks.keys_eq]
    exact List.length_take_le ..
  have fewer : (compiler.cache.keys.filter (· ≠ source)).length < compiler.cache.keys.length :=
    List.length_filter_lt_length_iff_exists.mpr ⟨source, kept, by simp⟩
  exact List.take_of_length_le (Nat.succ_le_of_lt (fewer.trans_le size))

theorem keys_compile (tracks : Tracks registry passes capacity calls compiler) (source : Text) :
    (compiler.compile source).value.2.cache.keys =
      (recent registry passes (calls ++ [source])).take capacity := by
  have registry_eq := tracks.reliable.registry_eq
  have passes_eq := tracks.reliable.passes_eq
  rcases compiler.compile_cases source with
    ⟨pattern, kept, call⟩ | ⟨-, pattern, compiled, call⟩ | ⟨-, fault, faulted, call⟩
  · have compiles : Pattern.compiles registry passes source = true :=
      congrArg Except.isOk (tracks.reliable.kept source pattern kept)
    have member : source ∈ compiler.cache.keys :=
      Entries.isSome_get?_iff.mp (Option.isSome_iff_exists.mpr ⟨pattern, kept⟩)
    rw [call, ← tracks.keys_front compiles, tracks.front_of_kept member]
    exact compiler.cache.keys_hit source pattern
  · rw [registry_eq, passes_eq] at compiled
    have compiles : Pattern.compiles registry passes source = true := congrArg Except.isOk compiled
    rw [call, ← tracks.keys_front compiles, ← tracks.capacity_eq]
    exact compiler.cache.miss.keys_remember source pattern
  · rw [registry_eq, passes_eq] at faulted
    have faults : Pattern.compiles registry passes source = false := congrArg Except.isOk faulted
    rw [call, recent_concat_of_fault faults]
    exact tracks.keys_eq

/-- **A call leaves the last sources in the cache.** -/
theorem compile (tracks : Tracks registry passes capacity calls compiler) (source : Text) :
    Tracks registry passes capacity (calls ++ [source]) (compiler.compile source).value.2 where
  reliable := tracks.reliable.compile source
  capacity_eq := (compiler.capacity_compile source).trans tracks.capacity_eq
  keys_eq := tracks.keys_compile source
  counted := by
    rw [List.length_append, ← tracks.counted, List.length_singleton]
    rcases compiler.isHit_or_isMiss source with ⟨-, hits, misses⟩ | ⟨-, hits, misses⟩ <;> omega

end Tracks

/-- Whatever a compiler was asked for since it was built, the last sources are in its cache. -/
theorem tracks_served (registry : Registry) (passes capacity : Nat) (calls : List Text) :
    Tracks registry passes capacity calls
      (served (.fresh registry passes capacity) (calls.map .compile)) := by
  induction calls using List.reverseRecOn with
  | nil => exact .fresh registry passes capacity
  | append_singleton calls source ih =>
    rw [served, List.map_append, List.foldl_append]
    exact ih.compile source

/-! ### The cache in service -/

/-- **How a compiler stands after some calls** when it keeps the patterns of the sources asked for
last. -/
structure KeepsLast (registry : Registry) (passes capacity : Nat) (calls : List Text)
    (compiler : Compiler) : Prop where
  /-- A call is a hit just where its source is among the last ones that compiled, as many as there is
  room for. -/
  hit : ∀ source, compiler.IsHit source ↔ source ∈ (recent registry passes calls).take capacity
  /-- Every other call is a miss. -/
  miss : ∀ source, compiler.IsMiss source ↔ source ∉ (recent registry passes calls).take capacity
  /-- Hits and misses come to the number of calls. -/
  counted : compiler.cache.hits + compiler.cache.misses = calls.length
  /-- The last sources are kept in their order. -/
  kept : compiler.cache.keys = (recent registry passes calls).take capacity
  /-- There are as many entries as distinct sources that compiled, if there is room for them. -/
  size : compiler.cache.size =
    min capacity (calls.filter (Pattern.compiles registry passes)).toFinset.card
  /-- A call that ends in a fault is a miss and leaves the entries and their order. -/
  fault : ∀ source fault, (compiler.compile source).value.1 = .error fault →
    compiler.IsMiss source ∧ (compiler.compile source).value.2.cache.entries = compiler.cache.entries
  /-- A hit leaves no notices, and neither a registry nor a number of passes has a part in it. -/
  silent : ∀ source, compiler.IsHit source → (compiler.compile source).notices = [] ∧
    ∀ (other : Registry) (budget : Nat),
      let elsewhere := Compiler.compile { compiler with registry := other, passes := budget } source
      elsewhere.notices = [] ∧ elsewhere.value.1 = (compiler.compile source).value.1 ∧
        elsewhere.value.2.cache = (compiler.compile source).value.2.cache

/-- **The sources asked for last are kept**, whatever a compiler was asked for since it was built. -/
theorem keepsLast_of_calls (registry : Registry) (passes capacity : Nat) (calls : List Text) :
    KeepsLast registry passes capacity calls
      (served (.fresh registry passes capacity) (calls.map .compile)) := by
  have tracks := tracks_served registry passes capacity calls
  generalize served (.fresh registry passes capacity) (calls.map .compile) = compiler at tracks
  refine ⟨?hit, ?miss, tracks.counted, tracks.keys_eq, ?size, ?fault, ?silent⟩
  case hit =>
    intro source
    rw [← tracks.keys_eq, Compiler.isHit_iff]
  case miss =>
    intro source
    rw [← tracks.keys_eq, Compiler.isMiss_iff]
  case size =>
    have size : compiler.cache.keys.length = compiler.cache.size := List.length_map ..
    rw [← size, tracks.keys_eq, List.length_take, length_recent]
  case fault =>
    intro source fault faulted
    rcases compiler.compile_cases source with
      ⟨pattern, -, call⟩ | ⟨-, pattern, -, call⟩ | ⟨missing, fault, -, call⟩
    · rw [call] at faulted
      cases faulted
    · rw [call] at faulted
      cases faulted
    · have unkept : source ∉ compiler.cache.keys := fun member =>
        Option.not_isSome_iff_eq_none.mpr missing (Entries.isSome_get?_iff.mpr member)
      refine ⟨Compiler.isMiss_iff.mpr unkept, ?_⟩
      rw [call]
      rfl
  case silent =>
    intro source hit
    have member := Entries.isSome_get?_iff.mpr (Compiler.isHit_iff.mp hit)
    obtain ⟨pattern, kept⟩ := Option.isSome_iff_exists.mp member
    have here := Compiler.compile_of_hit kept
    refine ⟨congrArg Logged.notices here, fun other budget => ?_⟩
    have elsewhere :
        Compiler.compile { compiler with registry := other, passes := budget } source = _ :=
      Compiler.compile_of_hit kept
    dsimp only
    rw [here, elsewhere]
    exact ⟨rfl, rfl, rfl⟩

end Engine

/-- Where there is room for two, the source asked for first goes, unless it was asked for again. -/
example : (served (.fresh .builtin 10 2)
    (["a", "b", "a", "c"].map fun source => .compile source.toList)).cache.keys =
      ["c".toList, "a".toList] := by
  decide +kernel

end GrokEvents
