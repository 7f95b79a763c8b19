/-
**Where the fields of a line come from.**

A run makes fields from what its pattern matches in the line, from its date clause and from its
removal list, and from nothing else. Whatever the configuration and the pattern are, the fields
other than the timestamp are the matched ones that are not removed, and the timestamp has a name
that no group can have.

* `mem_match`: what a pattern matches stands in the line, under names of its groups.
* `finish_value`: the fields that a filter makes of the matched ones.
* `provenance_of_run`: how the fields of a run come about.
-/

import GrokEvents.Proofs.Expr.Naming
import GrokEvents.Proofs.Service.Boundary

namespace GrokEvents

open Grok

/-! ### Matched fields -/

/-- What is found under a name is a stretch of the subject, and the name is that of a group. -/
theorem Expr.Expression.mem_fields {expression : Expression} {subject : Text}
    {matched : Entries Text Text} (found : expression.fields? subject = some matched)
    {field : Text × Text} (member : field ∈ matched) :
    (∃ group, (field.1, group) ∈ expression.names) ∧ field.2 <:+: subject := by
  obtain ⟨captures, -, rfl⟩ := Option.map_eq_some_iff.mp found
  obtain ⟨entry, named, kept⟩ := List.mem_filterMap.mp member
  obtain ⟨ends, -, rfl⟩ := Option.map_eq_some_iff.mp kept
  obtain ⟨before, after, whole⟩ := slice_append subject ends
  exact ⟨⟨entry.2, named⟩, before, after, whole.symm⟩

/-- No identifier is the name of the timestamp. -/
theorem Filter.isIdentifier_timestampField : Text.isIdentifier Filter.timestampField = false := by
  decide +kernel

section Run

variable [Expr.CharacterNames]

/-- What a compiled pattern matches is found by the expression of the expanded text. -/
theorem Compiled.read_of_match {registry : Registry} {passes : Nat} {source line : Text}
    {pattern : Pattern} (compiled : Compiled registry passes source pattern) {matched : Fields}
    (found : pattern.match? line = some matched) :
    ∃ expression, Expr.read (expand registry passes source).value.text = .ok expression ∧
      expression.fields? line = some matched := by
  obtain ⟨expression, known, found⟩ := Option.bind_eq_some_iff.mp found
  exact ⟨expression, (compiled.expression_eq_some_iff expression).mp known, found⟩

/-- What a compiled pattern matches stands in the line, under names that are identifiers. -/
theorem Compiled.mem_match {registry : Registry} {passes : Nat} {source line : Text}
    {pattern : Pattern} (compiled : Compiled registry passes source pattern) {matched : Fields}
    (found : pattern.match? line = some matched) {field : Text × Text} (member : field ∈ matched) :
    Text.isIdentifier field.1 = true ∧ field.2 <:+: line := by
  obtain ⟨expression, isRead, found⟩ := compiled.read_of_match found
  obtain ⟨⟨group, named⟩, stands⟩ := Expr.Expression.mem_fields found member
  exact ⟨Expr.isIdentifier_of_read isRead _ named, stands⟩

namespace Filter

theorem timestampField_not_mem_match {registry : Registry} {passes : Nat} {source line : Text}
    {pattern : Pattern} (compiled : Compiled registry passes source pattern) {matched : Fields}
    (found : pattern.match? line = some matched) : timestampField ∉ Entries.keys matched := by
  intro member
  obtain ⟨field, isField, same⟩ := List.mem_map.mp member
  have judged := (compiled.mem_match found isField).1
  rw [same, isIdentifier_timestampField] at judged
  cases judged

theorem match?_of_matchLine {pattern : Pattern} {line : Text} {matched : Fields}
    (found : (matchLine pattern line).value = .ok (some matched)) :
    pattern.match? line = some matched := by
  unfold matchLine at found
  rw [Pattern.find_eq_match?] at found
  split at found
  · cases found
  · cases known : pattern.match? line with
    | none =>
      rw [known] at found
      cases found
    | some other =>
      rw [known] at found
      exact Except.ok.inj found

end Filter

end Run

namespace Filter

/-! ### The end of a run -/

/-- The timestamp that a filter adds, where the field of its date clause holds a text. -/
def stamp? (clock : Time.Moment) (filter : Text) (matched : Fields) : Option Text :=
  (dateClause? filter).bind fun clause =>
    ((Entries.get? clause.field matched).filter (!·.isEmpty)).map fun value =>
      (Time.normalizeDate clock value).value

variable {clock : Time.Moment} {filter line log configuration : Text} {matched fields : Fields}

theorem applyDate_value (unstamped : timestampField ∉ Entries.keys matched) :
    (applyDate clock filter matched).value =
      matched ++ ((stamp? clock filter matched).map (timestampField, ·)).toList := by
  unfold applyDate stamp?
  cases dateClause? filter with
  | none => exact (List.append_nil _).symm
  | some clause =>
    dsimp only [Option.bind_some]
    rcases Entries.get? clause.field matched with _ | ⟨_ | ⟨char, rest⟩⟩
    · exact (List.append_nil _).symm
    · exact (List.append_nil _).symm
    · exact Entries.insert_of_not_mem _ unstamped

/-- The timestamp that is left in the end. -/
def keptStamp? (clock : Time.Moment) (filter : Text) (matched : Fields) : Option Text :=
  if timestampField ∈ removals filter then none else stamp? clock filter matched

theorem keptStamp?_isSome_iff : (keptStamp? clock filter matched).isSome = true ↔
    (∃ clause value, dateClause? filter = some clause ∧
      Entries.get? clause.field matched = some value ∧ value ≠ []) ∧
    timestampField ∉ removals filter := by
  have added : (stamp? clock filter matched).isSome = true ↔ ∃ clause value,
      dateClause? filter = some clause ∧
        Entries.get? clause.field matched = some value ∧ value ≠ [] := by
    unfold stamp?
    cases dateClause? filter with
    | none => simp
    | some clause =>
      rcases known : Entries.get? clause.field matched with _ | ⟨_ | ⟨char, rest⟩⟩ <;> simp [known]
  unfold keptStamp?
  by_cases removed : timestampField ∈ removals filter
  · simp [removed]
  · simp [removed, added]

/-- A filter makes of the matched fields those that are not removed, with the timestamp behind them. -/
theorem finish_value (unstamped : timestampField ∉ Entries.keys matched) :
    (finish clock filter (some matched)).value =
      some ((matched.filter fun field => field.1 ∉ removals filter) ++
        ((keptStamp? clock filter matched).map (timestampField, ·)).toList) := by
  have keeps (fields : Fields) : removeAll (removals filter) fields =
      fields.filter fun field => field.1 ∉ removals filter := by
    rw [removeAll_eq_filter]
    congr 1
    funext field
    simp
  show some (removeAll (removals filter) (applyDate clock filter matched).value) = _
  rw [applyDate_value unstamped, keeps, List.filter_append, keptStamp?]
  congr 2
  by_cases removed : timestampField ∈ removals filter <;>
    cases stamp? clock filter matched <;> simp [removed]

/-- What a filter neither writes nor removes is left as it was matched. -/
theorem get?_finish {name : Text} (other : timestampField ≠ name) (kept : name ∉ removals filter) :
    ∃ fields, (finish clock filter (some matched)).value = some fields ∧
      Entries.get? name fields = Entries.get? name matched := by
  have stays (names : List Text) (isKept : name ∉ names) (fields : Fields) :
      Entries.get? name (removeAll names fields) = Entries.get? name fields := by
    induction names generalizing fields with
    | nil => rfl
    | cons first names ih =>
      obtain ⟨different, others⟩ := List.ne_and_not_mem_of_not_mem_cons isKept
      show Entries.get? name (removeAll names (Entries.erase first fields)) = _
      rw [ih others, Entries.get?_erase, if_neg different.symm]
  refine ⟨removeAll (removals filter) (applyDate clock filter matched).value, rfl, ?_⟩
  rw [stays _ kept]
  unfold applyDate
  cases dateClause? filter with
  | none => rfl
  | some clause =>
    dsimp only
    rcases Entries.get? clause.field matched with _ | ⟨_ | ⟨char, rest⟩⟩
    · rfl
    · rfl
    · exact (Entries.get?_insert _ _ _ _).trans (if_neg other)

/-! ### Provenance -/

/-- How the fields that a run gives come from those that its pattern matches in the line. -/
structure Provenance (filter line : Text) (matched fields : Fields) : Prop where
  /-- All but the timestamp are matched fields, those that are not removed, in order and unchanged. -/
  kept : (fields.filter fun field => field.1 ≠ timestampField) =
    matched.filter fun field => field.1 ∉ removals filter
  /-- What they hold stands in the line. -/
  stands : ∀ field ∈ fields, field.1 ≠ timestampField → field.2 <:+: line
  /-- There is a timestamp where the field of the date clause holds a text, unless it is removed. -/
  stamped : timestampField ∈ Entries.keys fields ↔
    (∃ clause value, dateClause? filter = some clause ∧
      Entries.get? clause.field matched = some value ∧ value ≠ []) ∧
    timestampField ∉ removals filter
  /-- The timestamp is the last field. -/
  last : timestampField ∈ Entries.keys fields → ∃ others stamp,
    fields = others ++ [(timestampField, stamp)] ∧ timestampField ∉ Entries.keys others

theorem provenance_of_finish (unstamped : timestampField ∉ Entries.keys matched)
    (inLine : ∀ field ∈ matched, field.2 <:+: line)
    (finished : (finish clock filter (some matched)).value = some fields) :
    Provenance filter line matched fields := by
  rw [finish_value unstamped] at finished
  generalize isKept : (matched.filter fun field => field.1 ∉ removals filter) = kept at finished
  have named : ∀ field ∈ kept, field ∈ matched ∧ field.1 ≠ timestampField := by
    intro field member
    rw [← isKept] at member
    have isMatched := (List.mem_filter.mp member).1
    exact ⟨isMatched, fun same => unstamped (same ▸ List.mem_map_of_mem isMatched)⟩
  have unstampedKept : timestampField ∉ Entries.keys kept := by
    intro member
    obtain ⟨field, isField, same⟩ := List.mem_map.mp member
    exact (named field isField).2 same
  have unchanged : (kept.filter fun field => field.1 ≠ timestampField) = kept :=
    List.filter_eq_self.mpr fun field member => decide_eq_true (named field member).2
  have stamped := @keptStamp?_isSome_iff clock filter matched
  cases stamp : keptStamp? clock filter matched with
  | none =>
    rw [stamp] at finished stamped
    obtain rfl : kept = fields := by simpa using finished
    refine ⟨unchanged.trans isKept.symm, fun field member _ => inLine field (named field member).1, ?_,
      fun member => absurd member unstampedKept⟩
    exact ⟨fun member => absurd member unstampedKept, fun added => absurd (stamped.mpr added) nofun⟩
  | some text =>
    rw [stamp] at finished stamped
    obtain rfl : kept ++ [(timestampField, text)] = fields := Option.some.inj finished
    refine ⟨?_, ?_, ⟨fun _ => stamped.mp rfl, fun _ => ?_⟩, fun _ => ⟨kept, text, rfl, unstampedKept⟩⟩
    · rw [List.filter_append, unchanged, isKept]
      simp
    · intro field member other
      rcases List.mem_append.mp member with isField | isStamp
      · exact inLine field (named field isField).1
      · exact absurd (congrArg Prod.fst (List.mem_singleton.mp isStamp)) other
    · simp [Entries.keys]

/-- **Where the fields of a line come from.** Whatever a compiler has served, the fields that a run
gives come from those that its pattern matches in the trimmed line: they are the ones that are not
removed, in order and unchanged, each a stretch of that line, and behind them the timestamp, if the
field of the first date clause holds a text and the timestamp is not removed. -/
theorem provenance_of_run [Expr.CharacterNames] (registry : Registry) (passes cacheSize : Nat)
    (requests : List Request) (clock : Time.Moment) {log configuration : Text} {fields : Fields}
    (found : (run clock (served (.fresh registry passes cacheSize) requests) log
      configuration).value.1 = .ok (some fields)) :
    ∃ filter source pattern matched, (plan? configuration).value = some (filter, source) ∧
      ((served (.fresh registry passes cacheSize) requests).compile source).value.1 = .ok pattern ∧
      pattern.match? (Text.trim log) = some matched ∧
      Provenance filter (Text.trim log) matched fields := by
  have reliable := reliable_served registry passes cacheSize requests
  rw [run_value] at found
  rcases plan : (plan? configuration).value with _ | ⟨filter, source⟩
  · rw [plan] at found
    cases found
  · rw [plan] at found
    dsimp only at found
    cases asked : ((served (.fresh registry passes cacheSize) requests).compile source).value.1 with
    | error fault =>
      rw [asked] at found
      cases found
    | ok pattern =>
      rw [asked] at found
      have finished : (matchLine pattern (Text.trim log)).value.map
          (fun fields => (finish clock filter fields).value) = .ok (some fields) := found
      rcases isMatch : (matchLine pattern (Text.trim log)).value with fault | _ | matched
      · rw [isMatch] at finished
        cases finished
      · rw [isMatch] at finished
        cases finished
      · rw [isMatch] at finished
        have compiled := (reliable.compile_eq_ok_iff source pattern).mp asked
        have isFound := match?_of_matchLine isMatch
        exact ⟨filter, source, pattern, matched, rfl, asked, isFound,
          provenance_of_finish (timestampField_not_mem_match compiled isFound)
            (fun field member => (compiled.mem_match isFound member).2)
            (Except.ok.inj finished)⟩

/-- A configuration whose date clause reads a field that is removed. -/
def datedConfiguration : Text :=
  ("filter \x7b grok \x7b match => \x7b \"message\" => " ++
    "\"%\x7bWORD:day\x7d %\x7bGREEDYDATA:rest\x7d (?P<word>o*)\" \x7d \x7d " ++
    "date \x7b match => [\"day\", \"dd\"] \x7d " ++
    "mutate \x7b remove_field => [\"day\", \"none\"] \x7d \x7d").toList

/-- The field that the timestamp is made of is removed after it has served. -/
theorem provenance_of_run_dated :
    ∃ filter source pattern matched, (plan? datedConfiguration).value = some (filter, source) ∧
      ((served (.fresh .builtin 10 256) []).compile source).value.1 = .ok pattern ∧
      pattern.match? "x a b oo".toList = some matched ∧
      Provenance filter "x a b oo".toList matched
        [("rest".toList, "a b".toList), ("word".toList, "oo".toList),
          (timestampField, "2026-01-01T00:00:00.000Z".toList)] := by
  have trimmed : Text.trim " x a b oo ".toList = "x a b oo".toList := by
    decide +kernel
  have given : (run ⟨⟨2026, 1, 1⟩, ⟨0, 0, 0, 0⟩, none⟩ (served (.fresh .builtin 10 256) [])
      " x a b oo ".toList datedConfiguration).value.1.toOption =
      some (some [("rest".toList, "a b".toList), ("word".toList, "oo".toList),
        (timestampField, "2026-01-01T00:00:00.000Z".toList)]) := by
    decide +kernel
  cases ran : (run ⟨⟨2026, 1, 1⟩, ⟨0, 0, 0, 0⟩, none⟩ (served (.fresh .builtin 10 256) [])
      " x a b oo ".toList datedConfiguration).value.1 with
  | error fault =>
    rw [ran] at given
    cases given
  | ok fields =>
    rw [ran] at given
    obtain rfl := Option.some.inj given
    rw [← trimmed]
    exact provenance_of_run .builtin 10 256 [] _ ran

end Filter

end GrokEvents
