/-
**Removed fields do not show.**

What a request is answered with is made of the fields that its pattern matches. A field on the removal
list that no date clause reads is dropped before the event and the explanation are made, so that its
value, and even whether it was matched, reaches neither.

* `finish_of_agreeing`: a filter makes the same of fields that agree but for removed ones.
* `transform_of_agreeing`: two requests whose matched fields agree but for removed ones are answered
  alike.
-/

import GrokEvents.Proofs.Filter.Provenance

namespace GrokEvents

open Grok

/-! ### Agreement -/

/-- Two rows of fields are the same once the fields under some names are left out. -/
def AgreeBut (hidden : List Text) (one two : Fields) : Prop :=
  (one.filter fun field => !hidden.contains field.1) =
    two.filter fun field => !hidden.contains field.1

instance (hidden : List Text) (one two : Fields) : Decidable (AgreeBut hidden one two) :=
  inferInstanceAs (Decidable (_ = _))

/-- What is left out under other names does not matter to a name. -/
theorem Entries.get?_filter {name : Text} {hidden : List Text} (shown : name ∉ hidden)
    (fields : Fields) :
    Entries.get? name (fields.filter fun field => !hidden.contains field.1) =
      Entries.get? name fields := by
  induction fields with
  | nil => rfl
  | cons field fields ih =>
    rw [List.filter_cons]
    by_cases isHidden : field.1 ∈ hidden
    · have different : field.1 ≠ name := fun same => shown (same ▸ isHidden)
      rw [if_neg (by simpa using isHidden), ih, Entries.get?, if_neg different]
    · rw [if_pos (by simpa using isHidden), Entries.get?, Entries.get?, ih]

namespace AgreeBut

variable {hidden : List Text} {one two : Fields}

/-- Rows that agree agree on every name that is shown. -/
theorem get?_eq (agree : AgreeBut hidden one two) {name : Text} (shown : name ∉ hidden) :
    Entries.get? name one = Entries.get? name two := by
  rw [← Entries.get?_filter shown one, ← Entries.get?_filter shown two, agree]

/-- Rows that agree are the same once more names are left out. -/
theorem mono {more : List Text} (agree : AgreeBut hidden one two)
    (within : ∀ name ∈ hidden, name ∈ more) : AgreeBut more one two := by
  have twice (fields : Fields) : (fields.filter fun field => !more.contains field.1) =
      (fields.filter fun field => !hidden.contains field.1).filter
        fun field => !more.contains field.1 := by
    rw [List.filter_filter]
    congr 1
    funext field
    by_cases isHidden : field.1 ∈ hidden
    · simp [isHidden, within _ isHidden]
    · simp [isHidden]
  rw [AgreeBut, twice one, twice two, agree]

end AgreeBut

/-! ### The end of a run -/

namespace Filter

variable {filter : Text} {hidden : List Text} {one two : Fields}

/-- **A filter makes the same of fields that agree** but for removed ones that its date clause does not
read: the timestamp is read from a field that they agree on, and the rest is removed. -/
theorem finish_of_agreeing (clock : Time.Moment) (oneUnstamped : timestampField ∉ Entries.keys one)
    (twoUnstamped : timestampField ∉ Entries.keys two)
    (removed : ∀ name ∈ hidden, name ∈ removals filter)
    (unread : ∀ clause, dateClause? filter = some clause → clause.field ∉ hidden)
    (agree : AgreeBut hidden one two) :
    (finish clock filter (some one)).value = (finish clock filter (some two)).value := by
  have left : (one.filter fun field => field.1 ∉ removals filter) =
      two.filter fun field => field.1 ∉ removals filter := by
    simpa [AgreeBut] using agree.mono removed
  have stamps : stamp? clock filter one = stamp? clock filter two := by
    unfold stamp?
    cases clause : dateClause? filter with
    | none => rfl
    | some found => rw [Option.bind_some, Option.bind_some, agree.get?_eq (unread found clause)]
  rw [finish_value oneUnstamped, finish_value twoUnstamped, left, keptStamp?, keptStamp?, stamps]

end Filter

/-! ### Requests -/

section Engine

variable [Expr.Engine]

/-- The filter of a request and the fields that its pattern matches in the line. Nothing is matched for
a request that lacks its line or its configuration, or that ends in a fault. -/
def matched? (compiler : Compiler) (log configuration : Option Text) : Option (Text × Fields) :=
  match log.filter (!·.isEmpty), configuration.filter (!·.isEmpty) with
  | some log, some configuration =>
    (Filter.plan? configuration).value.bind fun (filter, source) =>
      match (compiler.compile source).value.1 >>= fun pattern =>
        (Filter.matchLine pattern (Text.trim log)).value with
      | .ok (some fields) => some (filter, fields)
      | _ => none
  | _, _ => none

variable {compiler : Compiler} {log configuration : Option Text} {filter : Text} {fields : Fields}

/-- Where something is matched, there are a line, a configuration and a pattern that match it. -/
theorem steps_of_matched (found : matched? compiler log configuration = some (filter, fields)) :
    ∃ line text source pattern, log.filter (!·.isEmpty) = some line ∧
      configuration.filter (!·.isEmpty) = some text ∧
      (Filter.plan? text).value = some (filter, source) ∧
      (compiler.compile source).value.1 = .ok pattern ∧
      (Filter.matchLine pattern (Text.trim line)).value = .ok (some fields) := by
  unfold matched? at found
  split at found
  · rename_i line text isLine isText
    obtain ⟨⟨body, source⟩, plan, found⟩ := Option.bind_eq_some_iff.mp found
    dsimp only at found
    cases compiled : (compiler.compile source).value.1 with
    | error fault =>
      rw [compiled] at found
      cases found
    | ok pattern =>
      rw [compiled] at found
      change (match (Filter.matchLine pattern (Text.trim line)).value with
        | .ok (some fields) => some (body, fields)
        | _ => none) = _ at found
      split at found
      · rename_i matched isMatch
        obtain ⟨rfl, rfl⟩ := Prod.mk.inj (Option.some.inj found)
        exact ⟨line, text, source, pattern, isLine, isText, plan, compiled, isMatch⟩
      · cases found
  · cases found

/-- A request whose pattern matches is answered about what its filter makes of the matched fields. -/
theorem transform_of_matched (found : matched? compiler log configuration = some (filter, fields))
    (clock : Time.Moment) (explain : Bool) :
    (transform clock compiler log configuration explain).value.1 =
      .ok (Answer.about clock explain (Filter.finish clock filter (some fields)).value) := by
  obtain ⟨line, text, source, pattern, isLine, isText, plan, compiled, isMatch⟩ :=
    steps_of_matched found
  rw [transform_value, isLine, isText]
  dsimp only
  rw [run_value, plan]
  dsimp only
  rw [compiled]
  show ((Filter.matchLine pattern (Text.trim line)).value.map _).map _ = _
  rw [isMatch]
  rfl

end Engine

section Run

variable [Expr.CharacterNames]

/-- No matched field has the name of the timestamp. -/
theorem Reliable.timestampField_not_mem_matched {registry : Registry} {passes : Nat}
    {compiler : Compiler} (reliable : Reliable registry passes compiler)
    {log configuration : Option Text}
    {filter : Text} {fields : Fields}
    (found : matched? compiler log configuration = some (filter, fields)) :
    Filter.timestampField ∉ Entries.keys fields := by
  obtain ⟨line, text, source, pattern, -, -, -, compiled, isMatch⟩ := steps_of_matched found
  exact Filter.timestampField_not_mem_match ((reliable.compile_eq_ok_iff source pattern).mp compiled)
    (Filter.match?_of_matchLine isMatch)

/-- **Removed fields do not show.** Whatever a compiler has served before each of two requests with
one configuration, if both match and the matched fields agree but for some that are removed and that
the date clause does not read, then the two are answered alike: with the same fields, event and
explanation. -/
theorem transform_of_agreeing (registry : Registry) (passes cacheSize : Nat)
    (earlier later : List Request) (clock : Time.Moment) (explain : Bool)
    {first second configuration : Option Text} {filter : Text} {one two : Fields} {hidden : List Text}
    (firstMatched : matched? (served (.fresh registry passes cacheSize) earlier) first configuration =
      some (filter, one))
    (secondMatched : matched? (served (.fresh registry passes cacheSize) later) second configuration =
      some (filter, two))
    (removed : ∀ name ∈ hidden, name ∈ Filter.removals filter)
    (unread : ∀ clause, Filter.dateClause? filter = some clause → clause.field ∉ hidden)
    (agree : AgreeBut hidden one two) :
    ∃ answer, answer.isSuccess = true ∧
      (transform clock (served (.fresh registry passes cacheSize) earlier) first configuration
        explain).value.1 = .ok answer ∧
      (transform clock (served (.fresh registry passes cacheSize) later) second configuration
        explain).value.1 = .ok answer := by
  have before := reliable_served registry passes cacheSize earlier
  have after := reliable_served registry passes cacheSize later
  have same := Filter.finish_of_agreeing clock (before.timestampField_not_mem_matched firstMatched)
    (after.timestampField_not_mem_matched secondMatched) removed unread agree
  refine ⟨_, ?_, transform_of_matched firstMatched clock explain, ?_⟩
  · rfl
  · rw [same]
    exact transform_of_matched secondMatched clock explain

end Run

/-- A configuration that removes a field which stands between two others, and the one of its date. -/
def secretive : Text :=
  ["filter \x7b grok \x7b match => \x7b ", "\"message\" => \"%\x7bDATA:user\x7d", "(:(?P<secret>.))?",
    "@(?P<day>.*)\" \x7d \x7d ", "date \x7b match => [\"day\", ", "\"d\"] \x7d mutate \x7b ",
    "remove_field => [\"", "secret\", \"day\"] \x7d \x7d"].flatMap String.toList

/-- A line with the field that is removed. -/
def secretLine : Text :=
  "ann:7@1".toList

/-- The same line without it. -/
def openLine : Text :=
  "ann@1".toList

/-- Two lines differ in a field that is removed, which one of them even lacks. The date that both are
stamped with is removed as well, but only after it has served. -/
theorem transform_of_agreeing_secretive :
    ∃ filter one two, one ≠ two ∧ AgreeBut ["secret".toList] one two ∧
      matched? (served (.fresh .builtin 10 256) []) (some secretLine) (some secretive) =
        some (filter, one) ∧
      matched? (served (.fresh .builtin 10 256) []) (some openLine) (some secretive) =
        some (filter, two) ∧
      ∃ answer, answer.isSuccess = true ∧
        (transform ⟨⟨2026, 1, 1⟩, ⟨0, 0, 0, 0⟩, none⟩ (served (.fresh .builtin 10 256) [])
          (some secretLine) (some secretive) true).value.1 = .ok answer ∧
        (transform ⟨⟨2026, 1, 1⟩, ⟨0, 0, 0, 0⟩, none⟩ (served (.fresh .builtin 10 256) [])
          (some openLine) (some secretive) true).value.1 = .ok answer := by
  let filter : Text := (secretive.drop 8).dropLast
  let one : Fields := [("user".toList, "ann".toList), ("secret".toList, "7".toList),
    ("day".toList, "1".toList)]
  let two : Fields := [("user".toList, "ann".toList), ("day".toList, "1".toList)]
  have agree : AgreeBut ["secret".toList] one two := by decide +kernel
  have oneMatched : matched? (served (.fresh .builtin 10 256) []) (some secretLine)
      (some secretive) = some (filter, one) := by
    decide +kernel
  have twoMatched : matched? (served (.fresh .builtin 10 256) []) (some openLine)
      (some secretive) = some (filter, two) := by
    decide +kernel
  have removed : ∀ name ∈ ["secret".toList], name ∈ Filter.removals filter := by decide +kernel
  have clause : Filter.dateClause? filter = some ⟨"day".toList, "d".toList⟩ := by
    decide +kernel
  have unread : ∀ found, Filter.dateClause? filter = some found → found.field ∉ ["secret".toList] := by
    intro found isFound
    rw [clause] at isFound
    rw [← Option.some.inj isFound]
    decide
  exact ⟨filter, one, two, by decide +kernel, agree, oneMatched, twoMatched,
    transform_of_agreeing .builtin 10 256 [] [] _ true oneMatched twoMatched removed unread agree⟩

end GrokEvents
