/-
**What is empty counts as missing.**

An event is made from the values under certain names: by the chains of its leaves, by its timestamp,
by its type and by its security result. Each of them takes an empty value for a missing one, so that
rows of fields which hold the same under these names make the same event, but for the fields that it
repeats.

* `firstPresent_eq_findSome?`, `isPresent_iff`: chains and rules by the values that are present.
* `Alike.sections_eq`: rows that are alike make the same sections.
* `ofFields_of_alike`: they make the same event outside of the fields that it repeats.
-/

import Mathlib.Data.List.Find
import GrokEvents.Event.OfFields

namespace GrokEvents

/-- An object without the members of a name; what is no object is left as it is. -/
def Json.without (name : Text) : Json → Json
  | .object members => .object (Entries.erase name members)
  | value => value

namespace Event

/-! ### Presence -/

/-- The value under a name, unless it is empty. -/
def present? (fields : Fields) (name : Text) : Option Text :=
  (Entries.get? name fields).filter fun value => !value.isEmpty

theorem present?_eq_some_iff {fields : Fields} {name value : Text} :
    present? fields name = some value ↔ Entries.get? name fields = some value ∧ value ≠ [] := by
  rw [present?, Option.filter_eq_some_iff]
  simp

/-- The first value of a chain is the first one that is present. -/
theorem firstPresent_eq_findSome? (fields : Fields) (names : List Text) :
    firstPresent fields names = names.findSome? (present? fields) := by
  induction names with
  | nil => rfl
  | cons name names ih =>
    rw [firstPresent, List.findSome?_cons, present?, ih]
    rcases Entries.get? name fields with _ | ⟨_ | ⟨char, rest⟩⟩ <;> rfl

theorem isPresent_iff {fields : Fields} {names : List Text} : isPresent fields names = true ↔
    ∃ name ∈ names, ∃ value, Entries.get? name fields = some value ∧ value ≠ [] := by
  rw [isPresent, firstPresent_eq_findSome?, List.findSome?_isSome_iff]
  simp only [Option.isSome_iff_exists, present?_eq_some_iff]

/-- Among more names there is a value where there is one among fewer. -/
theorem isPresent_mono {fields : Fields} {names more : List Text}
    (within : ∀ name ∈ names, name ∈ more) (present : isPresent fields names = true) :
    isPresent fields more = true := by
  obtain ⟨name, member, found⟩ := isPresent_iff.mp present
  exact isPresent_iff.mpr ⟨name, within name member, found⟩

/-! ### Names that are read -/

/-- The names that an event is made from: the chains of its leaves, those of its timestamp, and the
names that only its type asks for. -/
def readChains : List (List Text) :=
  [principalIp, principalHostname, principalPort, principalUser, targetIp, targetHostname, targetPort,
   targetUrl, httpMethod, httpUserAgent, httpReferer, responseCodeNames, [Filter.timestampField],
   ["timestamp".toList], chain ["dns_query", "dns_response"]]

/-- A type asks for no names but those. -/
theorem mem_readChains_of_rule : ∀ rule ∈ typeRules, ∀ names ∈ rule.2, ∀ name ∈ names,
    name ∈ readChains.flatten := by
  decide +kernel

/-- Two rows of fields hold the same under every name that an event is made from, where what is empty
counts as missing. -/
def Alike (one two : Fields) : Prop :=
  ∀ name ∈ readChains.flatten, present? one name = present? two name

instance (one two : Fields) : Decidable (Alike one two) :=
  inferInstanceAs (Decidable (∀ name ∈ readChains.flatten, _))

namespace Alike

variable {one two : Fields}

theorem firstPresent_eq (alike : Alike one two) {names : List Text}
    (isRead : ∀ name ∈ names, name ∈ readChains.flatten) :
    firstPresent one names = firstPresent two names := by
  rw [firstPresent_eq_findSome?, firstPresent_eq_findSome?]
  induction names with
  | nil => rfl
  | cons name names ih =>
    rw [List.findSome?_cons, List.findSome?_cons, alike name (isRead name List.mem_cons_self),
      ih fun other member => isRead other (List.mem_cons_of_mem _ member)]

theorem inferType_eq (alike : Alike one two) : inferType one = inferType two := by
  have rules : ∀ rule ∈ typeRules, rule.2.all (isPresent one) = rule.2.all (isPresent two) := by
    intro rule member
    rw [Bool.eq_iff_iff, List.all_eq_true, List.all_eq_true]
    refine forall₂_congr fun names among => ?_
    rw [isPresent, isPresent, alike.firstPresent_eq (mem_readChains_of_rule rule member names among)]
  rw [inferType, inferType, List.find?_congr rules]

/-- **Rows that are alike make the same sections**, with the same notices. -/
theorem sections_eq (alike : Alike one two) (clock : Time.Moment) :
    sections clock one = sections clock two := by
  have same : ∀ names ∈ readChains, firstPresent one names = firstPresent two names :=
    fun names member => alike.firstPresent_eq fun name among =>
      List.mem_flatten.mpr ⟨names, member, among⟩
  have judged : isPresent one responseCodeNames = isPresent two responseCodeNames := by
    rw [isPresent, isPresent, same responseCodeNames (by simp [readChains])]
  have type : typeLeaf one = typeLeaf two := by
    rw [typeLeaf, typeLeaf, alike.inferType_eq]
  simp only [readChains, List.forall_mem_cons] at same
  have timestamp : timestampLeaf clock one = timestampLeaf clock two := by
    simp only [timestampLeaf, same]
  have security (code : Option Int) : securityResult one code = securityResult two code := by
    rw [securityResult, securityResult, judged]
  simp only [sections, type, timestamp, security, same]

end Alike

/-! ### Events -/

/-- The name of the section that repeats the fields of a line. -/
def additionalName : Text := "additional".toList

theorem without_ofFields (clock : Time.Moment) (fields : Fields) :
    (ofFields clock fields).value.without additionalName =
      .object (Entries.erase additionalName (membersOf (sections clock fields).value.prune)) := by
  have last : Entries.erase additionalName
      [("additional".toList, objectOf [("parsed_fields", Json.ofFields fields)])] = [] :=
    if_pos rfl
  show Json.object (Entries.erase additionalName (membersOf _ ++ _)) = _
  rw [Entries.erase_eq_filter, List.filter_append, ← Entries.erase_eq_filter,
    ← Entries.erase_eq_filter, last, List.append_nil]

/-- **What is empty counts as missing, and what is not read does not show.** Rows of fields that
hold the same under the names that an event is made from make the same event outside of the fields
that it repeats; and it makes no difference whether a field is there with an empty value or not at
all. -/
theorem ofFields_of_alike (clock : Time.Moment) :
    (∀ one two : Fields, Alike one two →
      (ofFields clock one).value.without additionalName =
        (ofFields clock two).value.without additionalName) ∧
      ∀ (fields : Fields) (name : Text),
        (ofFields clock (Entries.insert name [] fields)).value.without additionalName =
          (ofFields clock (Entries.erase name fields)).value.without additionalName := by
  have equal {one two : Fields} (alike : Alike one two) :
      (ofFields clock one).value.without additionalName =
        (ofFields clock two).value.without additionalName := by
    rw [without_ofFields, without_ofFields, alike.sections_eq clock]
  refine ⟨fun one two => equal, fun fields name => equal fun other _ => ?_⟩
  rw [present?, present?, Entries.get?_insert, Entries.get?_erase]
  by_cases same : name = other
  · rw [if_pos same, if_pos same]
    rfl
  · rw [if_neg same, if_neg same]

/-- Fields with an empty address in front of the one that counts, and with one that no leaf reads. -/
def sparseFields : Fields :=
  [("src_ip".toList, []), ("user".toList, "ann".toList), ("source_ip".toList, "10.0.0.1".toList),
   ("session".toList, "7".toList), ("timestamp".toList, [])]

/-- Fields without the empty ones, in another order and with another one that no leaf reads. -/
def denseFields : Fields :=
  [("source_ip".toList, "10.0.0.1".toList), ("shard".toList, "b".toList), ("user".toList, "ann".toList)]

/-- Empty fields, unread ones and the order of all of them do not show. -/
theorem ofFields_of_alike_sparse : Alike sparseFields denseFields ∧
    (ofFields ⟨⟨2026, 1, 1⟩, ⟨0, 0, 0, 0⟩, none⟩ sparseFields).value.without additionalName =
      (ofFields ⟨⟨2026, 1, 1⟩, ⟨0, 0, 0, 0⟩, none⟩ denseFields).value.without additionalName := by
  have alike : Alike sparseFields denseFields := by decide +kernel
  exact ⟨alike, (ofFields_of_alike _).1 sparseFields denseFields alike⟩

end Event

end GrokEvents
