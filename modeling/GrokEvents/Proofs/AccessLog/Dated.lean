/-
**The date of a record.**

The date that a line carries is found in its field whatever its digits are, and is written in ISO
order at the end of the fields.

* `find?_date`: the window of a date is the whole of it.
* `applyDate_parts`: the fields of a record after its date clause.
-/

import GrokEvents.Proofs.Time.Window

namespace GrokEvents.AccessLog

open Text Time AccessDate

/-! ### Windows -/

theorem take?_monthName (date : Date) (rest : Text) :
    take? Char.isAlpha 3 (date.monthName ++ rest) = some (date.monthName, rest) := by
  have all : ∀ name ∈ monthNames, name.length = 3 ∧ name.all Char.isAlpha = true := by
    decide
  obtain ⟨three, letters⟩ := all date.monthName (List.getElem_mem _)
  exact take?_eq_some_iff.mpr ⟨rfl, three, List.all_eq_true.mp letters⟩

theorem offset?_zone (date : Date) : offset? (trimStart (' ' :: date.zone)) = some date.zone := by
  have signed : (date.sign.char = '+' || date.sign.char = '-') = true := by
    cases date.sign <;> decide
  have fits : Fits offsetLayout date.zone :=
    fits_offsetLayout_iff.mpr ⟨_, _, rfl, signed, date.offset.length_eq, date.offset.digits⟩
  have blank : ∀ char ∈ [' '], isBlank char = true :=
    List.forall_mem_singleton.mpr rfl
  exact offset?_trimStart.mpr ⟨[' '], [], (List.append_nil _).symm, blank, fits⟩

/-- A date as the window that it is read as. -/
def Date.window (date : Date) : AccessDate :=
  ⟨date.day.text, date.monthName, date.year.text, date.hour.text, date.minute.text, date.second.text,
    some date.zone⟩

theorem atStart?_date (date : Date) : atStart? date.text = some date.window := by
  have spelled : date.text = date.day.text ++ '/' :: (date.monthName ++ '/' :: (date.year.text ++ ':' ::
      (date.hour.text ++ ':' :: (date.minute.text ++ ':' :: (date.second.text ++
        ' ' :: date.zone))))) := by
    simp [Date.text, Date.clock, join]
  rw [spelled]
  simp only [atStart?, take?_digits, take?_monthName, skip?_cons, offset?_zone, Option.bind_eq_bind,
    Option.bind_some]
  rfl

/-- The date of a record is found where it begins. -/
theorem find?_date (date : Date) : find? date.text = some date.window := by
  have starts := atStart?_date date
  cases same : date.text with
  | nil =>
    rw [same] at starts
    cases starts
  | cons char rest =>
    rw [same] at starts
    rw [find?, starts]

theorem monthNumber_monthName (date : Date) : monthNumber date.monthName = date.month + 1 := by
  have all : ∀ month : Fin monthNames.length, monthNumber monthNames[month] = month + 1 := by
    decide
  exact all date.month

theorem iso_window (date : Date) : date.window.iso = date.iso := by
  simp [AccessDate.iso, Date.window, Date.iso, Date.clock, join, monthNumber_monthName]

/-! ### Fields -/

/-- The names of the fields that a record can have. -/
def fieldNames : List Text :=
  ["client_ip".toList, "ident".toList, "auth".toList, "timestamp".toList, "http_method".toList,
    "request".toList, "http_version".toList, "response_code".toList, "bytes".toList,
    "referrer".toList, "user_agent".toList, "@timestamp".toList]

/-- A record has all of them, but the version and the bytes only where they are given. -/
theorem keys_fields (record : Record) : Entries.keys record.fields = fieldNames.filter fun name =>
    (record.version.isSome || name != "http_version".toList) &&
      (record.bytes.isSome || name != "bytes".toList) := by
  rw [Record.fields, Record.parts]
  cases record.version <;> cases record.bytes <;> rfl

theorem nodup_keys_fields (record : Record) : (Entries.keys record.fields).Nodup := by
  have distinct : fieldNames.Nodup := by
    decide +kernel
  rw [keys_fields]
  exact distinct.sublist List.filter_sublist

theorem get?_fields {record : Record} {name value : Text} (member : (name, value) ∈ record.fields) :
    Entries.get? name record.fields = some value :=
  Entries.get?_of_mem (nodup_keys_fields record) member

theorem get?_fields_of_foreign {record : Record} {name : Text} (foreign : name ∉ fieldNames) :
    Entries.get? name record.fields = none := by
  apply Entries.get?_of_not_mem
  rw [keys_fields]
  exact fun member => foreign (List.mem_filter.mp member).1

theorem timestampField_not_mem_keys (record : Record) :
    Filter.timestampField ∉ Entries.keys record.parts := by
  have distinct := nodup_keys_fields record
  rw [Record.fields, Entries.keys, List.map_append, List.nodup_append] at distinct
  exact fun member => distinct.2.2 _ member _ List.mem_cons_self rfl

/-- A date clause for the timestamp makes the parts of a record its fields. -/
theorem applyDate_parts {record : Record} {filter : Text} {clause : Filter.DateClause}
    (dated : Filter.dateClause? filter = some clause) (reads : clause.field = "timestamp".toList)
    (clock : Moment) : Filter.applyDate clock filter record.parts = pure record.fields := by
  have found : Entries.get? clause.field record.parts = some record.date.text := by
    rw [reads]
    rfl
  have stamped : Time.normalizeDate clock record.date.text = pure record.date.iso := by
    rw [Time.normalizeDate_of_window clock (find?_date record.date), iso_window]
  have added : Entries.insert Filter.timestampField record.date.iso record.parts = record.fields :=
    Entries.insert_of_not_mem _ (timestampField_not_mem_keys record)
  unfold Filter.applyDate
  rw [dated]
  dsimp only
  rw [found]
  cases same : record.date.text with
  | nil =>
    have missing := find?_date record.date
    rw [same] at missing
    cases missing
  | cons char rest =>
    dsimp only
    rw [← same, stamped, Logged.pure_bind, added]

end GrokEvents.AccessLog
