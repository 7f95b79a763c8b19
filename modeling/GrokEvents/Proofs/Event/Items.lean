/-
**The items of an explanation.**

Behind its documents an explanation lists the main leaves of the event, with an item for each one
that stands there. A document shows its texts without line breaks, but an item shows its value as it
is: the list has one line for each item just where no value in it has a line break, and a value that
has some may bring lines into the list that look like other items.

* `items`: one item for each of the listed leaves that stand in an event.
* `listed?`: the lines between the headings around the list.
* `lineBreak_not_mem_items_iff`: the items are lines where the address and the verb have no line
  break.
* `listed?_eq_items_iff`: when the list is just the items.
* `transform_forged`: a log line that brings an item of its own into the list.
-/

import GrokEvents.Proofs.Event.Coherence
import GrokEvents.Proofs.Event.Explained
import GrokEvents.Proofs.Service.History

namespace GrokEvents.Event

variable {clock : Time.Moment} {fields : Fields}

/-! ### Items -/

/-- A leaf that explanations list, with what its item says of it. -/
structure ListedLeaf where
  label : String
  path : List String
  meaning : String

/-- The leaves that explanations list, in order. -/
def listedLeaves : List ListedLeaf :=
  [⟨"Principal IP", ["principal", "ip"], "Represents the source/client making the request"⟩,
   ⟨"HTTP Method", ["network", "http", "method"], "The HTTP verb used in the request"⟩,
   ⟨"Response Code", ["network", "http", "response_code"], "The HTTP status code returned"⟩,
   ⟨"Event Type", ["metadata", "event_type"], "Inferred type based on the parsed fields"⟩]

/-- What an item shows of a value: a text as it is, an integer in decimal digits, a list of one text
by it. -/
def shownInItem : Json → Text
  | .text value => value
  | .int value => Text.ofInt value
  | .array [.text value] => value
  | _ => []

/-- The item of a leaf: its label, its value and its meaning. -/
def ListedLeaf.item (leaf : ListedLeaf) (value : Json) : Text :=
  "- **".toList ++ leaf.label.toList ++ "**: ".toList ++ shownInItem value ++ " - ".toList ++
    leaf.meaning.toList

/-- One item for each of the listed leaves that stand in an event. -/
def items (event : Json) : List Text :=
  listedLeaves.filterMap fun leaf => (lookUp event leaf.path).map leaf.item

theorem mem_items_iff {event : Json} {item : Text} : item ∈ items event ↔
    ∃ leaf ∈ listedLeaves, ∃ value, lookUp event leaf.path = some value ∧ leaf.item value = item := by
  simp only [items, List.mem_filterMap, Option.map_eq_some_iff]

theorem lookUp_address : lookUp (ofFields clock fields).value ["principal", "ip"] =
    (firstPresent fields principalIp).map fun value => .array [.text value] := by
  have fed : Feed.alike ["principal", "ip"] principalIp .single ∈ feeds := by decide
  refine (lookUp_feed fed).trans ?_
  rw [Feed.leaf?, Feed.alike, firstLeaf?_alike]
  cases firstPresent fields principalIp <;> rfl

theorem lookUp_verb : lookUp (ofFields clock fields).value ["network", "http", "method"] =
    (firstPresent fields httpMethod).map .text := by
  have fed : Feed.alike ["network", "http", "method"] httpMethod .plain ∈ feeds := by decide
  refine (lookUp_feed fed).trans ?_
  rw [Feed.leaf?, Feed.alike, firstLeaf?_alike]
  rcases found : firstPresent fields httpMethod with _ | _ | _
  · rfl
  · exact absurd rfl (firstPresent_ne_nil found)
  · rfl

theorem mappingLine_eq (leaf : ListedLeaf) {told value : Json}
    (same : inSentence told = shownInItem value) :
    mappingLine leaf.label told leaf.meaning = leaf.item value ++ ['\n'] := by
  unfold mappingLine ListedLeaf.item
  rewrite [same]
  rfl

/-- An explanation ends each item with a line break. -/
theorem mappingLines_ofFields : mappingLines (ofFields clock fields).value =
    (items (ofFields clock fields).value).map (· ++ ['\n']) := by
  let line (leaf : ListedLeaf) : Option Text :=
    (lookUp (ofFields clock fields).value leaf.path).map fun value => leaf.item value ++ ['\n']
  have address : ((lookUp (ofFields clock fields).value ["principal", "ip"]).bind firstItem?).map
      (fun ip => mappingLine "Principal IP" ip "Represents the source/client making the request") =
        line listedLeaves[0] := by
    show _ = (lookUp (ofFields clock fields).value ["principal", "ip"]).map _
    rw [lookUp_address]
    cases firstPresent fields principalIp with
    | none => simp only [Option.map_none, Option.bind_none]
    | some value => exact congrArg some (mappingLine_eq listedLeaves[0] rfl)
  have verb : ((lookUp (ofFields clock fields).value ["network", "http", "method"]).filter isFilled).map
      (fun method => mappingLine "HTTP Method" method "The HTTP verb used in the request") =
        line listedLeaves[1] := by
    show _ = (lookUp (ofFields clock fields).value ["network", "http", "method"]).map _
    rw [lookUp_verb]
    rcases found : firstPresent fields httpMethod with _ | _ | _
    · simp only [Option.map_none, Option.filter_none]
    · exact absurd rfl (firstPresent_ne_nil found)
    · exact congrArg some (mappingLine_eq listedLeaves[1] rfl)
  have code : ((lookUp (ofFields clock fields).value ["network", "http", "response_code"]).filter
      fun code => !code.isNull).map
        (fun code => mappingLine "Response Code" code "The HTTP status code returned") =
        line listedLeaves[2] := by
    show _ = (lookUp (ofFields clock fields).value ["network", "http", "response_code"]).map _
    rw [lookUp_code]
    cases codeOf fields with
    | none => simp only [Option.map_none, Option.filter_none]
    | some code => exact congrArg some (mappingLine_eq listedLeaves[2] rfl)
  have type : ((lookUp (ofFields clock fields).value ["metadata", "event_type"]).filter isFilled).map
      (fun type => mappingLine "Event Type" type "Inferred type based on the parsed fields") =
        line listedLeaves[3] := by
    show _ = (lookUp (ofFields clock fields).value ["metadata", "event_type"]).map _
    have filled (type : EventType) : isFilled (.text type.name.toList) = true := by
      cases type <;> decide
    rw [lookUp_type]
    split
    · simp only [Option.map_none, Option.filter_none]
    · rw [Option.filter_some, filled, if_pos rfl]
      exact congrArg some (mappingLine_eq listedLeaves[3] rfl)
  calc mappingLines (ofFields clock fields).value = (listedLeaves.map line).filterMap id := by
        rw [mappingLines, address, verb, code, type]
        rfl
    _ = (items (ofFields clock fields).value).map (· ++ ['\n']) := by
        rw [List.filterMap_map, items, List.map_filterMap]
        refine List.filterMap_congr fun leaf _ => ?_
        rw [Option.map_map]
        rfl

/-! ### Line breaks in items -/

/-- Neither the address nor the verb that an event of the fields shows has a line break. -/
def Unbroken (fields : Fields) : Prop :=
  ∀ names ∈ [principalIp, httpMethod], ∀ value ∈ firstPresent fields names, '\n' ∉ value

instance (fields : Fields) : Decidable (Unbroken fields) :=
  inferInstanceAs (Decidable (∀ names ∈ _, ∀ value ∈ firstPresent fields names, '\n' ∉ value))

theorem lineBreak_mem_item_iff {leaf : ListedLeaf} (listed : leaf ∈ listedLeaves) (value : Json) :
    '\n' ∈ leaf.item value ↔ '\n' ∈ shownInItem value := by
  have plain : ∀ leaf ∈ listedLeaves, '\n' ∉ leaf.label.toList ∧ '\n' ∉ leaf.meaning.toList := by
    simp only [listedLeaves, List.forall_mem_cons]
    -- Texts that are written out are evaluated fast.
    repeat rw [String.toList_ofList]
    decide
  have between : '\n' ∉ "- **".toList ∧ '\n' ∉ "**: ".toList ∧ '\n' ∉ " - ".toList := by
    decide
  unfold ListedLeaf.item
  simp only [List.mem_append, plain leaf listed, between, false_or, or_false]

theorem lineBreak_not_mem_ofInt (number : Int) : '\n' ∉ Text.ofInt number := by
  intro member
  rw [Text.ofInt_eq] at member
  rcases List.mem_append.mp member with sign | digit
  · split at sign <;> simp at sign
  · cases Text.isDigit_of_mem_ofNat digit

/-- Response codes and types have no line breaks, so the items have none just where the address and
the verb have none. -/
theorem lineBreak_not_mem_items_iff :
    (∀ item ∈ items (ofFields clock fields).value, '\n' ∉ item) ↔ Unbroken fields := by
  have shown : (∀ item ∈ items (ofFields clock fields).value, '\n' ∉ item) ↔
      ∀ leaf ∈ listedLeaves, ∀ value, lookUp (ofFields clock fields).value leaf.path = some value →
        '\n' ∉ shownInItem value := by
    constructor
    · intro none leaf listed value found
      rw [← lineBreak_mem_item_iff listed]
      exact none _ (mem_items_iff.mpr ⟨leaf, listed, value, found, rfl⟩)
    · intro none item member
      obtain ⟨leaf, listed, value, found, rfl⟩ := mem_items_iff.mp member
      rw [lineBreak_mem_item_iff listed]
      exact none leaf listed value found
  rw [shown, Unbroken]
  simp only [listedLeaves, List.forall_mem_cons, lookUp_address, lookUp_verb, lookUp_code, lookUp_type,
    Option.map_eq_some_iff]
  constructor
  · rintro ⟨address, verb, -⟩
    exact ⟨fun value found => address _ ⟨value, found, rfl⟩,
      fun value found => verb _ ⟨value, found, rfl⟩, nofun⟩
  · rintro ⟨address, verb, -⟩
    refine ⟨?address, ?verb, ?code, ?type, nofun⟩
    case address =>
      rintro _ ⟨value, found, rfl⟩
      exact address value found
    case verb =>
      rintro _ ⟨value, found, rfl⟩
      exact verb value found
    case code =>
      rintro _ ⟨number, -, rfl⟩
      exact lineBreak_not_mem_ofInt number
    case type =>
      intro value found
      split at found
      · cases found
      · obtain rfl := Option.some.inj found
        cases inferType fields <;> decide

/-! ### The list -/

/-- The line before the list. -/
def listHeading : Text :=
  "### Field Mappings".toList

/-- The line behind the list. -/
def adviceHeading : Text :=
  "### Suggestions".toList

/-- The lines from the heading of the list, behind the two documents, to the heading of what follows the
list. Lines of nothing but white space are left out. -/
def listed? (explanation : Text) : Option (List Text) := do
  let (_, behind) ← block? (Text.splitOn '\n' explanation)
  let (_, behind) ← block? behind
  let (_, behind) ← Text.upTo? listHeading behind
  let (lines, _) ← Text.upTo? adviceHeading behind
  return lines.filter fun line => !line.all Text.isBlank

/-- What an explanation says behind the documents. -/
def listAndAdvice (event : Json) : Text :=
  listHeading ++ '\n' :: '\n' :: ((mappingLines event).flatten ++
    '\n' :: (adviceHeading ++ '\n' :: '\n' :: suggestionLines.flatten))

theorem explain_eq (fields : Fields) (event : Json) : explain fields event = beforeFields ++
    (jsonBlock (Json.ofFields fields) ++
      (beforeEvent ++ (jsonBlock event ++ listAndAdvice event))) := by
  have list : "### Field Mappings\n\n".toList = listHeading ++ ['\n', '\n'] := by decide
  have advice : "\n### Suggestions\n\n".toList = '\n' :: adviceHeading ++ ['\n', '\n'] := by
    decide
  unfold explain beforeFields beforeEvent listAndAdvice
  rw [list, advice]
  simp only [List.append_assoc, List.cons_append, List.nil_append]

/-- The lines of the list as they stand, with empty ones around the items. -/
def listLines (event : Json) : List Text :=
  [] :: (items event).flatMap (Text.splitOn '\n') ++ [[]]

theorem lineBreak_not_mem_listLines {event : Json} : ∀ line ∈ listLines event, '\n' ∉ line := by
  intro line member lineBreak
  rcases List.mem_append.mp member with first | last
  · rcases List.mem_cons.mp first with rfl | among
    · cases lineBreak
    · obtain ⟨item, -, inItem⟩ := List.mem_flatMap.mp among
      exact (Text.mem_of_mem_splitOn inItem lineBreak).2 rfl
  · rw [List.mem_singleton.mp last] at lineBreak
    cases lineBreak

theorem exists_splitOn_listAndAdvice (clock : Time.Moment) (fields : Fields) : ∃ advice,
    Text.splitOn '\n' ('\n' :: listAndAdvice (ofFields clock fields).value) =
      [] :: listHeading :: (listLines (ofFields clock fields).value ++ adviceHeading :: advice) := by
  have list : Text.splitOn '\n' listHeading = [listHeading] :=
    Text.splitOn_of_not_mem (by decide)
  have advice : Text.splitOn '\n' adviceHeading = [adviceHeading] :=
    Text.splitOn_of_not_mem (by decide)
  have empty (text : Text) : Text.splitOn '\n' ('\n' :: text) = [] :: Text.splitOn '\n' text :=
    if_pos rfl
  have ended : Text.splitOn '\n'
      (((items (ofFields clock fields).value).map (· ++ ['\n'])).flatten ++ []) =
      _ := Text.splitOn_flatten_ended _ _
  rw [List.append_nil] at ended
  refine ⟨Text.splitOn '\n' ('\n' :: suggestionLines.flatten), ?_⟩
  rw [listAndAdvice, mappingLines_ofFields, empty, Text.splitOn_append_cons, list, empty,
    Text.splitOn_append_cons, ended, Text.splitOn_append_cons, advice]
  rfl

/-- What is listed is found among the lines of the list. -/
theorem exists_listed?_eq (clock : Time.Moment) (distinct : (Entries.keys fields).Nodup) : ∃ advice,
    listed? (explain fields (ofFields clock fields).value) =
      (Text.upTo? adviceHeading
        (listLines (ofFields clock fields).value ++ adviceHeading :: advice)).map
        fun found => found.1.filter fun line => !line.all Text.isBlank := by
  have fence : beforeFields.getLast? = some '\n' ∧ opening ∉ Text.splitOn '\n' beforeFields := by
    unfold beforeFields opening
    repeat rw [String.toList_ofList]
    decide
  have nextFence : ('\n' :: beforeEvent).getLast? = some '\n' ∧
      opening ∉ Text.splitOn '\n' ('\n' :: beforeEvent) := by
    unfold beforeEvent opening
    repeat rw [String.toList_ofList]
    decide
  have first := block?_fenced fence.1 fence.2 (exact_fields distinct)
    (beforeEvent ++ (jsonBlock (ofFields clock fields).value ++
      listAndAdvice (ofFields clock fields).value))
  have second := block?_fenced nextFence.1 nextFence.2 (exact_event clock distinct)
    (listAndAdvice (ofFields clock fields).value)
  obtain ⟨advice, lines⟩ := exists_splitOn_listAndAdvice clock fields
  have heading : Text.upTo? listHeading
      ([] :: listHeading :: (listLines (ofFields clock fields).value ++ adviceHeading :: advice)) =
        some ([[]], listLines (ofFields clock fields).value ++ adviceHeading :: advice) :=
    Text.upTo?_append_cons (by decide : listHeading ∉ [[]]) _
  refine ⟨advice, ?_⟩
  rw [List.cons_append] at second
  rw [explain_eq, listed?, first]
  simp only [Option.bind_eq_bind, Option.bind_some, second, lines, heading]
  cases Text.upTo? adviceHeading
    (listLines (ofFields clock fields).value ++ adviceHeading :: advice) <;> rfl

/-- Where the list has no line like the heading behind it, what is listed are its lines that are not
empty. -/
theorem listed?_of_not_mem (clock : Time.Moment) (distinct : (Entries.keys fields).Nodup)
    (unmarked : adviceHeading ∉ listLines (ofFields clock fields).value) :
    listed? (explain fields (ofFields clock fields).value) =
      some ((listLines (ofFields clock fields).value).filter fun line => !line.all Text.isBlank) := by
  obtain ⟨advice, listed⟩ := exists_listed?_eq clock distinct
  rw [listed, Text.upTo?_append_cons unmarked]
  rfl

/-- Items without line breaks are the lines of the list that are not empty, and none of them is a
heading. -/
theorem listLines_of_unbroken {event : Json} (unbroken : ∀ item ∈ items event, '\n' ∉ item) :
    adviceHeading ∉ listLines event ∧
      (listLines event).filter (fun line => !line.all Text.isBlank) = items event := by
  have starts : ∀ item ∈ items event, item.head? = some '-' := by
    intro item member
    obtain ⟨leaf, -, value, -, rfl⟩ := mem_items_iff.mp member
    rfl
  have lines : (items event).flatMap (Text.splitOn '\n') = items event := by
    rw [List.flatMap_congr fun item member => Text.splitOn_of_not_mem (unbroken item member)]
    exact List.flatMap_singleton' _
  have filled : (items event).filter (fun line => !line.all Text.isBlank) = items event := by
    refine List.filter_eq_self.mpr fun item member => ?_
    obtain ⟨rest, rfl⟩ := List.head?_eq_some_iff.mp (starts item member)
    have visible : Text.isBlank '-' = false := by decide
    rw [List.all_cons, visible]
    rfl
  rw [listLines, lines]
  refine ⟨fun member => ?_, ?_⟩
  · rcases List.mem_append.mp member with first | last
    · rcases List.mem_cons.mp first with empty | among
      · exact absurd empty (by decide)
      · exact absurd (starts adviceHeading among) (by decide)
    · exact absurd (List.mem_singleton.mp last) (by decide)
  · rw [List.cons_append, List.filter_cons_of_neg (by decide), List.filter_append, filled]
    exact List.append_nil _

/-- **What explanations list.** Between its headings an explanation has, but for empty lines, one
line for each listed leaf that stands in the event, in order and each with its label, value and
meaning, just where neither the address nor the verb that the event shows has a line break. -/
theorem listed?_eq_items_iff (clock : Time.Moment) (distinct : (Entries.keys fields).Nodup) : ∃ lines,
    listed? (explain fields (ofFields clock fields).value) = some lines ∧
      (lines = items (ofFields clock fields).value ↔ Unbroken fields) := by
  by_cases unbroken : Unbroken fields
  · obtain ⟨unmarked, same⟩ := listLines_of_unbroken (lineBreak_not_mem_items_iff.mpr unbroken)
    have listed := listed?_of_not_mem clock distinct unmarked
    rw [same] at listed
    exact ⟨_, listed, iff_of_true rfl unbroken⟩
  · obtain ⟨advice, listed⟩ := exists_listed?_eq clock distinct
    obtain ⟨before, behind, marked, starts⟩ :=
      Text.exists_upTo? adviceHeading (listLines (ofFields clock fields).value) advice
    rw [marked, Option.map_some] at listed
    refine ⟨_, listed, iff_of_false (fun same => unbroken ?_) unbroken⟩
    have whole : ∀ item ∈ items (ofFields clock fields).value, '\n' ∉ item := by
      intro item member
      rw [← same] at member
      exact lineBreak_not_mem_listLines item (starts.subset (List.mem_of_mem_filter member))
    exact lineBreak_not_mem_items_iff.mp whole

/-- Fields with fences, headings, labels and a carriage return in what is listed of them. -/
def crowdedFields : Fields :=
  [("client_ip".toList, "``` ### Suggestions".toList),
    ("method".toList, "- **Event Type**: GET\r".toList),
   ("status_code".toList, "404".toList)]

theorem listed?_eq_items_iff_crowded :
    let event := (ofFields ⟨⟨2026, 1, 1⟩, ⟨0, 0, 0, 0⟩, none⟩ crowdedFields).value
    (Entries.keys crowdedFields).Nodup ∧ Unbroken crowdedFields ∧ (items event).length = 4 ∧
      listed? (explain crowdedFields event) = some (items event) := by
  intro event
  have distinct : (Entries.keys crowdedFields).Nodup := by decide
  have unbroken : Unbroken crowdedFields := by decide
  obtain ⟨lines, listed, same⟩ := listed?_eq_items_iff ⟨⟨2026, 1, 1⟩, ⟨0, 0, 0, 0⟩, none⟩ distinct
  rw [same.mpr unbroken] at listed
  exact ⟨distinct, unbroken, by decide, listed⟩

/-! ### Forged items -/

/-- The event and the explanation of an answer that has both. -/
def report? : Answer → Option (Json × Text)
  | .transformed _ event (some explanation) => some (event, explanation)
  | _ => none

/-- A run that gives fields is reported with their event and its explanation. -/
theorem report?_transform [Expr.Engine] {compiler : Grok.Compiler} {log configuration : Text}
    (given : log ≠ [] ∧ configuration ≠ [])
    (ran : (Filter.run clock compiler log configuration).value.1 = .ok (some fields)) :
    (transform clock compiler (some log) (some configuration) true).value.1.toOption.bind report? =
      some ((ofFields clock fields).value, explain fields (ofFields clock fields).value) := by
  have filled {text : Text} (nonempty : text ≠ []) : (some text).filter (!·.isEmpty) = some text := by
    rw [Option.filter_some, List.isEmpty_eq_false_iff.mpr nonempty]
    rfl
  rw [transform_value, filled given.1, filled given.2]
  simp only [ran, Except.map, Except.toOption, Option.bind_some, report?, Answer.about, if_pos]

/-- Fields of an address only. -/
def addressed (value : Text) : Fields :=
  [("client_ip".toList, value)]

theorem inferType_addressed {value : Text} (nonempty : value ≠ []) :
    inferType (addressed value) = .generic := by
  obtain ⟨char, rest, rfl⟩ := List.exists_cons_of_ne_nil nonempty
  rfl

theorem items_addressed {value : Text} (nonempty : value ≠ []) :
    items (ofFields clock (addressed value)).value = [listedLeaves[0].item (.text value)] := by
  have type := inferType_addressed nonempty
  obtain ⟨char, rest, rfl⟩ := List.exists_cons_of_ne_nil nonempty
  have address : firstPresent (addressed (char :: rest)) principalIp = some (char :: rest) := rfl
  have verb : firstPresent (addressed (char :: rest)) httpMethod = none := rfl
  have code : codeOf (addressed (char :: rest)) = none := rfl
  simp only [items, listedLeaves, List.filterMap_cons, lookUp_address, lookUp_verb, lookUp_code,
    lookUp_type, address, verb, code, type]
  rfl

/-- A log line whose quoted text has a line that looks like an item. -/
def forgingLine : Text :=
  "\"\n- **Event Type**: USER_LOGIN - Inferred type based on the parsed fields\n\"".toList

/-- A configuration that takes a quoted text for the address. -/
def quotingConfiguration : Text :=
  "filter \x7b grok \x7b match => \x7b \"message\" => \"%\x7bQS:client_ip\x7d\" \x7d \x7d \x7d".toList

theorem forgingLine_ne_nil : forgingLine ≠ [] := by
  unfold forgingLine
  rw [String.toList_ofList]
  exact List.cons_ne_nil _ _

/-- The line as a whole is taken for the address. -/
theorem run_forged : (Filter.run ⟨⟨2026, 1, 1⟩, ⟨0, 0, 0, 0⟩, none⟩ .default forgingLine
    quotingConfiguration).value.1 = .ok (some (addressed forgingLine)) := by
  have found : (Filter.run ⟨⟨2026, 1, 1⟩, ⟨0, 0, 0, 0⟩, none⟩ .default forgingLine
      quotingConfiguration).value.1.toOption = some (some (addressed forgingLine)) := by
    decide +kernel
  generalize (Filter.run ⟨⟨2026, 1, 1⟩, ⟨0, 0, 0, 0⟩, none⟩ .default forgingLine
    quotingConfiguration).value.1 = outcome at found ⊢
  cases outcome with
  | error fault => cases found
  | ok fields => rw [Option.some.inj found]

/-- Each line of the address is a line of the list. -/
theorem listLines_forged : listLines (ofFields clock (addressed forgingLine)).value =
    [[], "- **Principal IP**: \"".toList,
     "- **Event Type**: USER_LOGIN - Inferred type based on the parsed fields".toList,
     "\" - Represents the source/client making the request".toList, []] := by
  rw [listLines, items_addressed forgingLine_ne_nil]
  unfold listedLeaves ListedLeaf.item shownInItem forgingLine
  repeat rw [String.toList_ofList]
  decide

/-- **A log line brings an item into the list.** The event of the line has an address and no type;
the list of its explanation has three lines, of which one is an item about a type. -/
theorem transform_forged : ∃ event explanation,
    (transform ⟨⟨2026, 1, 1⟩, ⟨0, 0, 0, 0⟩, none⟩ .default (some forgingLine)
      (some quotingConfiguration) true).value.1.toOption.bind report? = some (event, explanation) ∧
    (items event).length = 1 ∧ lookUp event ["metadata", "event_type"] = none ∧
    listed? explanation = some
      ["- **Principal IP**: \"".toList,
       "- **Event Type**: USER_LOGIN - Inferred type based on the parsed fields".toList,
       "\" - Represents the source/client making the request".toList] := by
  have configured : quotingConfiguration ≠ [] := by
    unfold quotingConfiguration
    rw [String.toList_ofList]
    exact List.cons_ne_nil _ _
  have unmarked : adviceHeading ∉
      listLines (ofFields ⟨⟨2026, 1, 1⟩, ⟨0, 0, 0, 0⟩, none⟩ (addressed forgingLine)).value := by
    rw [listLines_forged]
    unfold adviceHeading
    repeat rw [String.toList_ofList]
    decide
  refine ⟨_, _, report?_transform ⟨forgingLine_ne_nil, configured⟩ run_forged, ?single, ?untyped,
    ?listed⟩
  case single =>
    rw [items_addressed forgingLine_ne_nil]
    rfl
  case untyped =>
    rw [lookUp_type, if_pos (inferType_addressed forgingLine_ne_nil)]
  case listed =>
    have distinct : (Entries.keys (addressed forgingLine)).Nodup := List.nodup_singleton _
    rw [listed?_of_not_mem _ distinct unmarked, listLines_forged]
    repeat rw [String.toList_ofList]
    decide

end GrokEvents.Event
