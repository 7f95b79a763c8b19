/-
**The derived parts of an event go with its leaves.**

The type and the security result of an event are made by rules of their own, beside the chains that
feed its leaves. What a rule finds present is present in the event too: the security result judges
the response code that stands in the event, and a type is given only to an event that shows what the
type is about.

* `lookUp_ofFields`: what stands in an event is what is kept of its sections.
* `exists_rule_of_inferType`: a type is given by a rule that has all it asks for.
* `coherent_of_fields`: how the type and the security result of any event go with its leaves.
-/

import GrokEvents.Proofs.Event.Mapping
import GrokEvents.Proofs.Event.Presence

namespace GrokEvents.Event

variable {clock : Time.Moment} {fields : Fields}

/-! ### What stands in an event -/

/-- Outside of the fields that it repeats, what stands in an event is what is kept of its sections. -/
theorem lookUp_ofFields {name : String} (other : "additional".toList ≠ name.toList)
    (path : List String) : lookUp (ofFields clock fields).value (name :: path) =
      (lookUp (sections clock fields).value (name :: path)).bind Json.kept? := by
  obtain ⟨members, whole, draft, event⟩ := exists_draft_ofFields clock fields
  rw [event, lookUp_concat_of_ne other, ← lookUp_kept_object,
    (Draft.object (by decide) draft).lookUp_kept, whole]

/-- A leaf that is fed stands in the event as its feed makes it. -/
theorem lookUp_feed {feed : Feed} (member : feed ∈ feeds) :
    lookUp (ofFields clock fields).value feed.path = feed.leaf? clock fields := by
  obtain ⟨name, path, same, other⟩ := exists_path_of_mem_feeds feed member
  rw [same, lookUp_ofFields other, ← same, lookUp_sections clock fields feed member, Option.bind_some,
    Feed.kept?_draft]

/-- A leaf that keeps what is not empty stands in the event where one of its names has a value. -/
theorem isSome_lookUp (conversion : Conversion) {path : List String} {names : List Text}
    (fed : Feed.alike path names conversion ∈ feeds)
    (full : ∀ value, value ≠ [] → (conversion.leaf clock value).isEmpty = false) :
    (lookUp (ofFields clock fields).value path).isSome = isPresent fields names := by
  have stands : lookUp (ofFields clock fields).value path = _ := lookUp_feed fed
  rw [stands, Feed.leaf?, Feed.alike, firstLeaf?_alike, isPresent]
  cases found : firstPresent fields names with
  | none => rfl
  | some value => simp [full value (firstPresent_ne_nil found)]

theorem leaf?_integer (path : List String) (names : List Text) :
    (Feed.alike path names .integer).leaf? clock fields =
      (toInt? (firstPresent fields names)).value.map Json.int := by
  rw [Feed.leaf?, Feed.alike, firstLeaf?_alike]
  cases firstPresent fields names with
  | none => rfl
  | some value =>
    show (some (intLeaf (toInt value).value)).filter _ = (toInt value).value.map Json.int
    cases (toInt value).value <;> rfl

/-! ### Security results -/

/-- The code that the security result of some fields judges. -/
def codeOf (fields : Fields) : Option Int :=
  (toInt? (firstPresent fields responseCodeNames)).value

theorem lookUp_code : lookUp (ofFields clock fields).value ["network", "http", "response_code"] =
    (codeOf fields).map Json.int := by
  have fed : Feed.alike ["network", "http", "response_code"] responseCodeNames .integer ∈ feeds := by
    decide
  exact (lookUp_feed fed).trans (leaf?_integer _ _)

theorem lookUp_securityResult : lookUp (ofFields clock fields).value ["security_result"] =
    securityResult fields (codeOf fields) := by
  rw [lookUp_ofFields (by decide)]
  simp (disch := decide) only [sections, Logged.value_bind, Logged.value_pure, lookUp_objectOf,
    Entries.get?_cons_self, Entries.get?_cons_of_ne, Option.bind_some]
  show ((securityResult fields (codeOf fields)).getD .null).kept? = _
  unfold securityResult
  split <;> rfl

/-- A judgment of a response code. -/
def judgment (code : Option Int) : Json :=
  objectOf
    [("action", .text (classify code).1.name.toList),
     ("severity", .text (classify code).2.name.toList),
     ("category", .text "HTTP_REQUEST".toList)]

theorem securityResult_eq (code : Option Int) : securityResult fields code =
    if isPresent fields responseCodeNames then some (.array [judgment code]) else none :=
  rfl

theorem isSome_securityResult : (lookUp (ofFields clock fields).value ["security_result"]).isSome =
    isPresent fields responseCodeNames := by
  rw [lookUp_securityResult, securityResult_eq]
  cases isPresent fields responseCodeNames <;> rfl

/-! ### Types -/

theorem EventType.name_injective : Function.Injective EventType.name := by
  intro one two same
  cases one <;> cases two <;> simp_all [name]

/-- The type of an event stands in it, unless it is a generic one. -/
theorem lookUp_type : lookUp (ofFields clock fields).value ["metadata", "event_type"] =
    if inferType fields = .generic then none else some (.text (inferType fields).name.toList) := by
  rw [lookUp_ofFields (by decide)]
  simp (disch := decide) only [sections, Logged.value_bind, Logged.value_pure, lookUp_objectOf,
    Entries.get?_cons_self, Option.bind_some]
  unfold typeLeaf
  cases inferType fields <;> rfl

/-- An event says of which type it is, unless it is a generic one. -/
theorem lookUp_eventType {type : EventType} : lookUp (ofFields clock fields).value
      ["metadata", "event_type"] = some (.text type.name.toList) ↔
    inferType fields = type ∧ type ≠ .generic := by
  rw [lookUp_type]
  by_cases generic : inferType fields = .generic
  · rw [if_pos generic, generic]
    constructor
    · rintro ⟨⟩
    · rintro ⟨rfl, special⟩
      exact absurd rfl special
  · rw [if_neg generic, Option.some_inj, Json.text.injEq, String.toList_inj,
      EventType.name_injective.eq_iff]
    exact ⟨fun same => ⟨same, same ▸ generic⟩, And.left⟩

/-- A type is given by a rule that has all it asks for. -/
theorem exists_rule_of_inferType {type : EventType} (given : inferType fields = type)
    (special : type ≠ .generic) :
    ∃ rule ∈ typeRules, rule.1 = type ∧ ∀ names ∈ rule.2, isPresent fields names = true := by
  unfold inferType at given
  cases found : typeRules.find? fun rule => rule.2.all (isPresent fields) with
  | none =>
    rw [found] at given
    exact absurd given.symm special
  | some rule =>
    rw [found] at given
    have asked := List.find?_some found
    exact ⟨rule, List.mem_of_find?_eq_some found, given, List.all_eq_true.mp asked⟩

/-- A type is given only where all that its rules ask for is present. -/
theorem isPresent_of_type {type : EventType} (names : List Text)
    (given : lookUp (ofFields clock fields).value ["metadata", "event_type"] =
      some (.text type.name.toList))
    (asks : ∀ rule ∈ typeRules, rule.1 = type → names ∈ rule.2) : isPresent fields names = true := by
  obtain ⟨inferred, special⟩ := lookUp_eventType.mp given
  obtain ⟨rule, member, same, present⟩ := exists_rule_of_inferType inferred special
  exact present names (asks rule member same)

/-- The names of which a request has one. -/
def requestNames : List Text :=
  ["http_method".toList, "method".toList, "response_code".toList]

/-- A request is known by its verb before anything else is asked for. -/
theorem inferType_of_method (present : isPresent fields httpMethod = true) :
    inferType fields = .networkHttp := by
  have asked : isPresent fields requestNames = true := isPresent_mono (by decide) present
  have first : [requestNames].all (isPresent fields) = true := by
    rw [List.all_cons, asked]
    rfl
  unfold requestNames at first
  rw [inferType, typeRules, List.find?_cons, first]

/-- What is known for a request has a verb or a response code. -/
theorem isPresent_of_request (given : lookUp (ofFields clock fields).value ["metadata", "event_type"] =
    some (.text EventType.networkHttp.name.toList)) :
    isPresent fields httpMethod = true ∨ isPresent fields responseCodeNames = true := by
  have asked : isPresent fields requestNames = true := isPresent_of_type _ given (by decide)
  obtain ⟨name, member, found⟩ := isPresent_iff.mp asked
  have known : ∀ name ∈ requestNames, name ∈ httpMethod ∨ name ∈ responseCodeNames := by decide
  exact (known name member).imp (fun among => isPresent_iff.mpr ⟨name, among, found⟩)
    fun among => isPresent_iff.mpr ⟨name, among, found⟩

/-! ### Coherence -/

/-- How the type and the security result of an event go with its leaves. -/
structure Coherent (fields : Fields) (event : Json) : Prop where
  /-- There is a security result just where one of the fields of a response code has a value. -/
  judged : (lookUp event ["security_result"]).isSome = true ↔
    ∃ name ∈ responseCodeNames, ∃ value, Entries.get? name fields = some value ∧ value ≠ []
  /-- It is a single judgment, of the response code that stands in the event, if any does. -/
  judges : ∀ result, lookUp event ["security_result"] = some result →
    ∃ code : Option Int, lookUp event ["network", "http", "response_code"] = code.map Json.int ∧
      result = .array [judgment code]
  /-- An event about a request shows its verb or a security result. -/
  request : lookUp event ["metadata", "event_type"] = some (.text EventType.networkHttp.name.toList) →
    (lookUp event ["network", "http", "method"]).isSome = true ∨
      (lookUp event ["security_result"]).isSome = true
  /-- An event about a connection shows both of its addresses. -/
  connection :
    lookUp event ["metadata", "event_type"] = some (.text EventType.networkConnection.name.toList) →
    (lookUp event ["principal", "ip"]).isSome = true ∧ (lookUp event ["target", "ip"]).isSome = true
  /-- An event about a login shows the user. -/
  login : lookUp event ["metadata", "event_type"] = some (.text EventType.userLogin.name.toList) →
    (lookUp event ["principal", "user", "userid"]).isSome = true
  /-- An event that shows a verb is one about a request. -/
  verb : (lookUp event ["network", "http", "method"]).isSome = true →
    lookUp event ["metadata", "event_type"] = some (.text EventType.networkHttp.name.toList)

/-- **The derived parts of an event go with its leaves**, whatever the fields are that it is made of. -/
theorem coherent_of_fields (clock : Time.Moment) (fields : Fields) :
    Coherent fields (ofFields clock fields).value := by
  have fullText (value : Text) (nonempty : value ≠ []) : (Json.text value).isEmpty = false :=
    Json.full_text nonempty _ .self
  have method : (lookUp (ofFields clock fields).value ["network", "http", "method"]).isSome =
      isPresent fields httpMethod :=
    isSome_lookUp .plain (by decide) fullText
  have user : (lookUp (ofFields clock fields).value ["principal", "user", "userid"]).isSome =
      isPresent fields principalUser :=
    isSome_lookUp .plain (by decide) fullText
  have client : (lookUp (ofFields clock fields).value ["principal", "ip"]).isSome =
      isPresent fields principalIp :=
    isSome_lookUp .single (by decide) fun _ _ => rfl
  have server : (lookUp (ofFields clock fields).value ["target", "ip"]).isSome =
      isPresent fields targetIp :=
    isSome_lookUp .single (by decide) fun _ _ => rfl
  refine ⟨?judged, ?judges, ?request, ?connection, ?login, ?verb⟩
  case judged => rw [isSome_securityResult, isPresent_iff]
  case judges =>
    intro result found
    rw [lookUp_securityResult, securityResult_eq] at found
    split at found
    · exact ⟨codeOf fields, lookUp_code, (Option.some.inj found).symm⟩
    · cases found
  case request =>
    intro type
    rw [method, isSome_securityResult]
    exact isPresent_of_request type
  case connection =>
    intro type
    rw [client, server]
    exact ⟨isPresent_mono (by decide) (isPresent_of_type ["src_ip".toList] type (by decide)),
      isPresent_mono (by decide) (isPresent_of_type ["dst_ip".toList] type (by decide))⟩
  case login =>
    intro type
    rw [user]
    exact isPresent_mono (by decide)
      (isPresent_of_type ["user".toList, "username".toList] type (by decide))
  case verb =>
    intro shown
    rw [method] at shown
    exact lookUp_eventType.mpr ⟨inferType_of_method shown, by decide⟩

end GrokEvents.Event
