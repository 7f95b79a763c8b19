/-
**Events and their schema.**

The event of a line has the sections that the schema declares and no others, and what it holds is of the
declared types and never empty. Each of its leaves is there just where the fields of the line feed it.

* `schema`: the sections, leaves and types of an event.
* `feeds`: the leaves that are fed by the fields of a line.
* `mapped_of_fields`: what holds of the event of any fields.
-/

import GrokEvents.Proofs.Event.Schema

namespace GrokEvents.Event

/-! ### The schema -/

/-- A section about a party of an event. -/
def partyShape (last : String × Shape) : Shape :=
  .object [("hostname", .text), ("ip", .list .text), ("port", .int), last]

/-- The sections that are pruned. -/
def prunedSections : List (String × Shape) :=
  [("metadata", .object [("event_type", .text), ("event_timestamp", .text)]),
   ("principal", partyShape ("user", .object [("userid", .text)])),
   ("target", partyShape ("url", .text)),
   ("network", .object [("http", .object
     [("method", .text), ("response_code", .int), ("user_agent", .text), ("referer", .text)])]),
   ("security_result", .list (.object [("action", .text), ("severity", .text), ("category", .text)]))]

/-- The shape of an event: the pruned sections, and behind them the fields of the line. -/
def schema : Shape :=
  .object (prunedSections ++ [("additional", .object [("parsed_fields", .table)])])

/-! ### Feeds -/

/-- How a leaf is made of the value that feeds it. -/
inductive Conversion where
  | plain
  | single
  | integer
  | unquoted
  | date
deriving DecidableEq, Repr

/-- The leaf made of a value. -/
def Conversion.leaf (clock : Time.Moment) : Conversion → Text → Json
  | .plain, value => .text value
  | .single, value => .array [.text value]
  | .integer, value => intLeaf (toInt value).value
  | .unquoted, value => .text (stripQuotes value)
  | .date, value => .text (Time.parseTimestamp clock value).value

/-- A leaf of an event with the chain of names that feeds it, each with its conversion. -/
structure Feed where
  path : List String
  chain : List (Text × Conversion)
deriving DecidableEq, Repr

/-- A leaf whose names are all converted alike. -/
def Feed.alike (path : List String) (names : List Text) (conversion : Conversion) : Feed :=
  ⟨path, names.map fun name => (name, conversion)⟩

@[simp] theorem Feed.path_alike (path : List String) (names : List Text) (conversion : Conversion) :
    (alike path names conversion).path = path := rfl

/-- The leaves that are fed by the fields of a line. -/
def feeds : List Feed :=
  [⟨["metadata", "event_timestamp"], [(Filter.timestampField, .plain), ("timestamp".toList, .date)]⟩,
   .alike ["principal", "hostname"] principalHostname .plain,
   .alike ["principal", "ip"] principalIp .single,
   .alike ["principal", "port"] principalPort .integer,
   .alike ["principal", "user", "userid"] principalUser .plain,
   .alike ["target", "hostname"] targetHostname .plain,
   .alike ["target", "ip"] targetIp .single,
   .alike ["target", "port"] targetPort .integer,
   .alike ["target", "url"] targetUrl .plain,
   .alike ["network", "http", "method"] httpMethod .plain,
   .alike ["network", "http", "response_code"] responseCodeNames .integer,
   .alike ["network", "http", "user_agent"] httpUserAgent .unquoted,
   .alike ["network", "http", "referer"] httpReferer .unquoted]

variable (clock : Time.Moment) (fields : Fields)

/-- The leaf made of the first value that is not empty among the fields under the names of a chain. -/
def firstLeaf? (chain : List (Text × Conversion)) : Option Json :=
  chain.findSome? fun link =>
    ((Entries.get? link.1 fields).filter fun value => !value.isEmpty).map (link.2.leaf clock)

/-- The leaf that the fields of a line feed, if it is neither null nor empty. -/
def Feed.leaf? (feed : Feed) : Option Json :=
  (firstLeaf? clock fields feed.chain).filter fun leaf => !leaf.isEmpty

/-- What stands for the leaf before it is pruned. -/
def Feed.draft (feed : Feed) : Json :=
  (firstLeaf? clock fields feed.chain).getD .null

theorem firstLeaf?_cons (name : Text) (conversion : Conversion) (chain : List (Text × Conversion)) :
    firstLeaf? clock fields ((name, conversion) :: chain) =
      ((firstPresent fields [name]).map (conversion.leaf clock)).or
        (firstLeaf? clock fields chain) := by
  rw [firstLeaf?, List.findSome?_cons, firstPresent]
  rcases Entries.get? name fields with _ | ⟨_ | ⟨char, rest⟩⟩ <;> rfl

theorem firstLeaf?_alike (names : List Text) (conversion : Conversion) :
    firstLeaf? clock fields (names.map fun name => (name, conversion)) =
      (firstPresent fields names).map (conversion.leaf clock) := by
  induction names with
  | nil => rfl
  | cons name names ih =>
    rw [List.map_cons, firstLeaf?_cons, ih, firstPresent, firstPresent, firstPresent]
    rcases Entries.get? name fields with _ | ⟨_ | ⟨char, rest⟩⟩ <;> rfl

theorem Conversion.leaf_ne_object (conversion : Conversion) (value : Text)
    (members : List (Text × Json)) : conversion.leaf clock value ≠ .object members := by
  cases conversion with
  | integer =>
    rw [leaf]
    cases (toInt value).value <;> simp [intLeaf]
  | _ => simp [leaf]

theorem Feed.kept?_draft (feed : Feed) : (feed.draft clock fields).kept? = feed.leaf? clock fields := by
  unfold draft leaf?
  cases first : firstLeaf? clock fields feed.chain with
  | none => rfl
  | some leaf =>
    obtain ⟨link, -, made⟩ := List.exists_of_findSome?_eq_some first
    obtain ⟨value, -, rfl⟩ := Option.map_eq_some_iff.mp made
    exact Json.kept?_of_not_object (link.2.leaf_ne_object clock value)

/-! ### Sections -/

theorem draft_textLeaf (value : Option Text) : Draft .text (textLeaf value) := by
  cases value with
  | none => exact .null _
  | some value => exact .text value

theorem draft_intLeaf (value : Option Int) : Draft .int (intLeaf value) := by
  cases value with
  | none => exact .null _
  | some value => exact .int value

theorem draft_listLeaf (names : List Text) :
    Draft (.list .text) (listLeaf (firstPresent fields names)) := by
  cases found : firstPresent fields names with
  | none => exact .null _
  | some value =>
    refine .list fun item among => ?_
    obtain rfl := List.mem_singleton.mp among
    exact ⟨.text value, Json.full_text (firstPresent_ne_nil found)⟩

theorem draft_typeLeaf : Draft .text (typeLeaf fields) := by
  unfold typeLeaf
  split
  · exact .null _
  · exact .text _

theorem draft_timestampLeaf : Draft .text (timestampLeaf clock fields).value := by
  unfold timestampLeaf
  split
  · exact .text _
  · split
    · exact .text _
    · exact .null _

theorem Action.name_ne_nil (action : Action) : action.name.toList ≠ [] := by
  cases action <;> decide

theorem Severity.name_ne_nil (severity : Severity) : severity.name.toList ≠ [] := by
  cases severity <;> decide

theorem draft_securityResult (code : Option Int) :
    Draft (.list (.object [("action", .text), ("severity", .text), ("category", .text)]))
      ((securityResult fields code).getD .null) := by
  unfold securityResult
  split
  · refine .list fun item among => ?_
    obtain rfl := List.mem_singleton.mp among
    refine ⟨.object (.present (.text _) (.present (.text _) (.present (.text _) .nil))),
      Json.full_object (List.cons_ne_nil _ _) ?_⟩
    simp only [List.forall_mem_cons]
    exact ⟨Json.full_text (Action.name_ne_nil _), Json.full_text (Severity.name_ne_nil _),
      Json.full_text (by decide), nofun⟩
  · exact .null _

/-- The sections before they are pruned are a draft of those of the schema. -/
theorem draft_sections : ∃ members, (sections clock fields).value = .object members ∧
    DraftMembers prunedSections members :=
  ⟨_, rfl,
    .cons (.object (by decide)
      (.cons (draft_typeLeaf fields) (.cons (draft_timestampLeaf clock fields) .nil)))
    (.cons (.object (by decide)
      (.cons (draft_textLeaf _) (.cons (draft_listLeaf fields _) (.cons (draft_intLeaf _)
        (.cons (.object (by decide) (.cons (draft_textLeaf _) .nil)) .nil)))))
    (.cons (.object (by decide)
      (.cons (draft_textLeaf _) (.cons (draft_listLeaf fields _) (.cons (draft_intLeaf _)
        (.cons (draft_textLeaf _) .nil)))))
    (.cons (.object (by decide)
      (.cons (.object (by decide)
        (.cons (draft_textLeaf _) (.cons (draft_intLeaf _) (.cons (draft_textLeaf _)
          (.cons (draft_textLeaf _) .nil))))) .nil))
    (.cons (draft_securityResult fields _) .nil))))⟩

/-- A leaf that depends on the first value of its chain is the draft of its feed. -/
theorem leaf_firstPresent {conversion : Conversion} (leaf : Option Text → Json) (path : List String)
    (names : List Text) (absent : leaf none = .null)
    (present : ∀ value, leaf (some value) = conversion.leaf clock value) :
    leaf (firstPresent fields names) = (Feed.alike path names conversion).draft clock fields := by
  rw [Feed.draft, Feed.alike, firstLeaf?_alike]
  cases firstPresent fields names with
  | none => exact absent
  | some value => exact present value

theorem timestampLeaf_value (path : List String) : (timestampLeaf clock fields).value =
    Feed.draft clock fields ⟨path, [(Filter.timestampField, .plain), ("timestamp".toList, .date)]⟩ := by
  rw [timestampLeaf, Feed.draft, firstLeaf?_cons, firstLeaf?_cons]
  cases firstPresent fields [Filter.timestampField] with
  | some value => rfl
  | none =>
    cases firstPresent fields ["timestamp".toList] with
    | some value => rfl
    | none => rfl

theorem lookUp_objectOf (members : List (String × Json)) (name : String) (path : List String) :
    lookUp (objectOf members) (name :: path) =
      (Entries.get? name members).bind fun member => lookUp member path := by
  have found : Entries.get? name.toList (members.map fun member => (member.1.toList, member.2)) =
      Entries.get? name members := by
    induction members with
    | nil => rfl
    | cons member members ih =>
      rw [List.map_cons, Entries.get?, Entries.get?, ih]
      simp only [String.toList_inj]
  exact congrArg (fun member => member.bind fun member => lookUp member path) found

/-- What stands at the place of a leaf before the sections are pruned. -/
theorem lookUp_sections : ∀ feed ∈ feeds,
    lookUp (sections clock fields).value feed.path = some (feed.draft clock fields) := by
  have plain path names : textLeaf (firstPresent fields names) =
      (Feed.alike path names .plain).draft clock fields :=
    leaf_firstPresent clock fields textLeaf path names rfl fun _ => rfl
  have single path names : listLeaf (firstPresent fields names) =
      (Feed.alike path names .single).draft clock fields :=
    leaf_firstPresent clock fields listLeaf path names rfl fun _ => rfl
  have integer path names : intLeaf (toInt? (firstPresent fields names)).value =
      (Feed.alike path names .integer).draft clock fields :=
    leaf_firstPresent clock fields (fun value => intLeaf (toInt? value).value) path names rfl
      fun _ => rfl
  have unquoted path names : textLeaf ((firstPresent fields names).map stripQuotes) =
      (Feed.alike path names .unquoted).draft clock fields :=
    leaf_firstPresent clock fields (fun value => textLeaf (value.map stripQuotes)) path names rfl
      fun _ => rfl
  simp (disch := decide) only [feeds, List.forall_mem_cons, sections, Logged.value_bind,
    Logged.value_pure, lookUp_objectOf, Feed.path_alike, Entries.get?_cons_self,
    Entries.get?_cons_of_ne, Option.bind_some]
  exact ⟨congrArg some (timestampLeaf_value clock fields _), congrArg some (plain _ _),
    congrArg some (single _ _), congrArg some (integer _ _), congrArg some (plain _ _),
    congrArg some (plain _ _), congrArg some (single _ _), congrArg some (integer _ _),
    congrArg some (plain _ _), congrArg some (plain _ _), congrArg some (integer _ _),
    congrArg some (unquoted _ _), congrArg some (unquoted _ _), List.forall_mem_nil _⟩

/-! ### Events -/

/-- An event is what is kept of its sections, and behind them the fields of the line. -/
theorem exists_draft_ofFields : ∃ members, (sections clock fields).value = .object members ∧
    DraftMembers prunedSections members ∧
      (ofFields clock fields).value = .object (Json.pruneMembers members ++
        [("additional".toList, objectOf [("parsed_fields", Json.ofFields fields)])]) := by
  obtain ⟨members, whole, draft⟩ := draft_sections clock fields
  refine ⟨members, whole, draft, ?_⟩
  show Json.object (membersOf (sections clock fields).value.prune ++ _) = _
  rw [whole, Json.prune]
  cases Json.pruneMembers members <;> rfl

/-- How an event goes with the fields that it is made of. -/
structure Mapped (clock : Time.Moment) (fields : Fields) (event : Json) : Prop where
  /-- It has no sections, leaves and types but those of the schema, in the order of the schema. -/
  conforms : Conforms schema event
  /-- Nothing in it is empty, except among the fields of the line. -/
  full : ∀ members, event = .object members →
    ∀ member ∈ members, member.1 ≠ "additional".toList → member.2.Full
  /-- The fields of the line are in it as they are. -/
  verbatim : lookUp event ["additional", "parsed_fields"] = some (Json.ofFields fields)
  /-- A leaf is there just where the first value of its chain makes one, and it is that one. -/
  fed : ∀ feed ∈ feeds, lookUp event feed.path = feed.leaf? clock fields

/-- The first name on the way to a leaf is that of a section that is pruned. -/
theorem exists_path_of_mem_feeds : ∀ feed ∈ feeds, ∃ name path,
    feed.path = name :: path ∧ "additional".toList ≠ name.toList := by
  have pruned : ∀ feed ∈ feeds, ∃ name ∈ prunedSections.map Prod.fst, feed.path.head? = some name := by
    decide
  intro feed member
  obtain ⟨name, among, head⟩ := pruned feed member
  obtain ⟨path, same⟩ := List.head?_eq_some_iff.mp head
  refine ⟨name, path, same, fun equal => ?_⟩
  rw [← String.toList_inj.mp equal] at among
  exact absurd among (by decide)

theorem lookUp_concat_of_ne {members : List (Text × Json)} {last : Text × Json} {name : String}
    (other : last.1 ≠ name.toList) (path : List String) :
    lookUp (.object (members ++ [last])) (name :: path) = lookUp (.object members) (name :: path) := by
  show (Entries.get? name.toList (members ++ [last])).bind _ = (Entries.get? name.toList members).bind _
  rw [Entries.get?_append, Entries.get?_cons_of_ne other, Entries.get?, Option.or_none]

/-- **Events and their schema.** The event of any fields conforms to the schema, is empty nowhere but in
the fields it repeats, and has each leaf that they feed. -/
theorem mapped_of_fields : Mapped clock fields (ofFields clock fields).value := by
  obtain ⟨members, whole, draft⟩ := draft_sections clock fields
  obtain ⟨conforming, full⟩ := draft.kept
  have event : (ofFields clock fields).value = .object (Json.pruneMembers members ++
      [("additional".toList, objectOf [("parsed_fields", Json.ofFields fields)])]) := by
    show Json.object (membersOf (sections clock fields).value.prune ++ _) = _
    rw [whole, Json.prune]
    cases Json.pruneMembers members <;> rfl
  rw [event]
  refine ⟨?conforms, ?full, ?verbatim, ?fed⟩
  case conforms =>
    exact .object (conforming.append (.present (.object (.present (.table fields) .nil)) .nil))
  case full =>
    rintro _ ⟨rfl⟩ member among other
    rcases List.mem_append.mp among with kept | last
    · exact full member kept
    · exact absurd (congrArg Prod.fst (List.mem_singleton.mp last)) other
  case verbatim =>
    have unknown : "additional".toList ∉ Entries.keys (Json.pruneMembers members) := fun known =>
      absurd (conforming.keys_sublist.subset known) (by decide)
    show (Entries.get? _ (_ ++ _)).bind _ = _
    rw [Entries.get?_append, Entries.get?_of_not_mem unknown, Option.none_or, Entries.get?_cons_self,
      Option.bind_some, lookUp_objectOf, Entries.get?_cons_self]
    rfl
  case fed =>
    intro feed member
    obtain ⟨name, path, same, other⟩ := exists_path_of_mem_feeds feed member
    rw [same, lookUp_concat_of_ne other, ← lookUp_kept_object,
      (Draft.object (by decide) draft).lookUp_kept, ← whole, ← same,
      lookUp_sections clock fields feed member, Option.bind_some, Feed.kept?_draft]

end GrokEvents.Event
