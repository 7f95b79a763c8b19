/-
**The event of a record.**

The fields of a record are mapped to its event: each leaf is fed by the one field of its chain that
a record has, and the leaves that no field feeds are pruned.

* `toInt_number`: the code of a record as an integer.
* `ofFields_fields`: the event of a record's fields.
-/

import GrokEvents.Proofs.AccessLog.Dated
import GrokEvents.Proofs.Event.Integer

namespace GrokEvents.AccessLog

open Text Event

/-! ### Integers -/

theorem isBlank_of_mem_number {number : Number} {char : Char} (member : char ∈ number.text) :
    isBlank char = false := by
  rcases List.mem_append.mp member with inSign | inSize
  · obtain ⟨sign, -, rfl⟩ := Option.map_eq_some_iff.mp (Option.mem_toList.mp inSign)
    cases sign <;> decide
  · rcases Magnitude.mem_text inSize with digit | rfl
    · exact isBlank_of_isDigit digit
    · decide

theorem sign_mem_signs (sign : Option Sign) : (sign.map Sign.char).toList ∈ Number.signs := by
  rcases sign with _ | _ | _ <;> decide

/-- A number with a point is no sign and digits. -/
theorem not_isSigned_of_point {text : Text} (point : '.' ∈ text) : ¬ IsSigned text := by
  rintro ⟨sign, isSign, digits, rfl, -, all⟩
  have other : ∀ char ∈ sign ++ digits, char ≠ '.' :=
    Number.forall_mem_signed (by decide) (by decide) (by decide) isSign all
  exact other '.' point rfl

/-- The code of a record is read as an integer where it is one. -/
theorem toInt_number (number : Number) : (toInt number.text).value = number.integer? := by
  have trimmed : trim number.text = number.text :=
    trim_of_unblank fun _ member => isBlank_of_mem_number member
  obtain ⟨sign, size⟩ := number
  cases size with
  | whole digits =>
    have minus : (sign.map Sign.char).toList = ['-'] ↔ sign = some .minus := by
      rcases sign with _ | _ | _ <;> decide
    rw [toInt_signed (sign_mem_signs sign) digits.text_ne_nil digits.passes trimmed, Number.integer?,
      Number.signed]
    simp only [minus]
    split_ifs <;> rfl
  | decimal digits behind =>
    have point : '.' ∈ Number.text ⟨sign, .decimal digits behind⟩ := by
      simp [Number.text, Magnitude.text]
    rw [toInt_of_not_signed (trimmed.symm ▸ not_isSigned_of_point point)]
    rfl
  | fraction digits =>
    have point : '.' ∈ Number.text ⟨sign, .fraction digits⟩ := by
      simp [Number.text, Magnitude.text]
    rw [toInt_of_not_signed (trimmed.symm ▸ not_isSigned_of_point point)]
    rfl

/-! ### Chains -/

/-- A chain gives the value of its first name that records have. -/
theorem firstPresent_fields {record : Record} {names : List Text} {name value : Text}
    (first : names.find? fieldNames.contains = some name) (member : (name, value) ∈ record.fields)
    (nonempty : value ≠ []) : firstPresent record.fields names = some value := by
  induction names with
  | nil => cases first
  | cons other names ih =>
    rw [firstPresent]
    by_cases known : fieldNames.contains other = true
    · rw [List.find?_cons_of_pos known] at first
      obtain rfl := Option.some.inj first
      rw [get?_fields member]
      cases value with
      | nil => exact absurd rfl nonempty
      | cons char rest => rfl
    · rw [List.find?_cons_of_neg known] at first
      rw [get?_fields_of_foreign fun isField => known (List.contains_iff_mem.mpr isField)]
      exact ih first

theorem firstPresent_foreign (record : Record) {names : List Text}
    (foreign : names.find? fieldNames.contains = none) : firstPresent record.fields names = none := by
  induction names with
  | nil => rfl
  | cons other names ih =>
    rw [List.find?_cons] at foreign
    split at foreign
    · cases foreign
    · rename_i unknown
      rw [firstPresent, get?_fields_of_foreign fun isField => Bool.eq_false_iff.mp unknown
        (List.contains_iff_mem.mpr isField)]
      exact ih foreign

theorem quoted_ne_nil (pieces : List QuotedPiece) : quoted pieces ≠ [] :=
  List.cons_ne_nil _ _

theorem stripQuotes_quoted (pieces : List QuotedPiece) :
    stripQuotes (quoted pieces) = inside pieces := by
  show (if (inside pieces ++ ['"']).getLast? = some '"' then (inside pieces ++ ['"']).dropLast
    else inside pieces ++ ['"']) = inside pieces
  rw [List.getLast?_concat, if_pos rfl, List.dropLast_concat]

theorem Number.text_ne_nil (number : Number) : number.text ≠ [] :=
  List.append_ne_nil_of_right_ne_nil _ number.size.text_ne_nil

theorem Date.iso_ne_nil (date : Date) : date.iso ≠ [] := by
  rw [iso, List.append_assoc]
  exact List.append_ne_nil_of_right_ne_nil _ (List.cons_ne_nil _ _)

/-! ### Sections -/

/-- The sections of a record's event before they are pruned. -/
def Record.full (record : Record) : Json :=
  let (action, severity) := classify record.code.integer?
  objectOf
    [("metadata", objectOf
      [("event_type", .text "NETWORK_HTTP".toList), ("event_timestamp", .text record.date.iso)]),
     ("principal", objectOf
      [("hostname", .null), ("ip", .array [.text record.host.text]), ("port", .null),
       ("user", objectOf [("userid", .text record.ident.text)])]),
     ("target", objectOf [("hostname", .null), ("ip", .null), ("port", .null), ("url", .null)]),
     ("network", objectOf
      [("http", objectOf
        [("method", .text record.method.text), ("response_code", intLeaf record.code.integer?),
         ("user_agent", .text (inside record.agent)), ("referer", .text (inside record.referrer))])]),
     ("security_result", .array [.object
      [("action".toList, .text action.name.toList), ("severity".toList, .text severity.name.toList),
       ("category".toList, .text "HTTP_REQUEST".toList)]])]

theorem responseCode_fields (record : Record) :
    firstPresent record.fields responseCodeNames = some record.code.text :=
  firstPresent_fields rfl (by simp [Record.fields, Record.parts]) record.code.text_ne_nil

theorem typeLeaf_fields (record : Record) :
    typeLeaf record.fields = .text "NETWORK_HTTP".toList := by
  have method : firstPresent record.fields ["http_method".toList, "method".toList,
      "response_code".toList] = some record.method.text :=
    firstPresent_fields rfl (by simp [Record.fields, Record.parts]) record.method.text_ne_nil
  have asked : isPresent record.fields ["http_method".toList, "method".toList,
      "response_code".toList] = true := by
    rw [isPresent, method]
    rfl
  have type : inferType record.fields = .networkHttp := by
    rw [inferType, typeRules, List.find?_cons_of_pos]
    rw [List.all_cons, asked, List.all_nil, Bool.and_true]
  rw [typeLeaf, type]
  rfl

theorem timestampLeaf_fields (record : Record) (clock : Time.Moment) :
    timestampLeaf clock record.fields = pure (.text record.date.iso) := by
  have stamp : firstPresent record.fields [Filter.timestampField] = some record.date.iso :=
    firstPresent_fields rfl (by simp [Record.fields]) record.date.iso_ne_nil
  rw [timestampLeaf, stamp]

theorem securityResult_fields (record : Record) (code : Option Int) :
    securityResult record.fields code =
      some (.array [.object
        [("action".toList, .text (classify code).1.name.toList),
         ("severity".toList, .text (classify code).2.name.toList),
         ("category".toList, .text "HTTP_REQUEST".toList)]]) := by
  have present : isPresent record.fields responseCodeNames = true := by
    rw [isPresent, responseCode_fields]
    rfl
  rw [securityResult, if_pos present]

theorem sections_fields (record : Record) (clock : Time.Moment) :
    (sections clock record.fields).value = record.full := by
  have ip : firstPresent record.fields principalIp = some record.host.text :=
    firstPresent_fields rfl (by simp [Record.fields, Record.parts]) (List.cons_ne_nil _ _)
  have user : firstPresent record.fields principalUser = some record.ident.text :=
    firstPresent_fields rfl (by simp [Record.fields, Record.parts]) record.ident.text_ne_nil
  have method : firstPresent record.fields httpMethod = some record.method.text :=
    firstPresent_fields rfl (by simp [Record.fields, Record.parts]) record.method.text_ne_nil
  have agent : firstPresent record.fields httpUserAgent = some (quoted record.agent) :=
    firstPresent_fields rfl (by simp [Record.fields, Record.parts]) (quoted_ne_nil _)
  have referer : firstPresent record.fields httpReferer = some (quoted record.referrer) :=
    firstPresent_fields rfl (by simp [Record.fields, Record.parts]) (quoted_ne_nil _)
  unfold sections
  simp only [Logged.value_bind, Logged.value_pure, responseCode_fields, timestampLeaf_fields,
    typeLeaf_fields, securityResult_fields, ip, user, method, agent, referer,
    firstPresent_foreign record (show principalHostname.find? fieldNames.contains = none from rfl),
    firstPresent_foreign record (show principalPort.find? fieldNames.contains = none from rfl),
    firstPresent_foreign record (show targetIp.find? fieldNames.contains = none from rfl),
    firstPresent_foreign record (show targetHostname.find? fieldNames.contains = none from rfl),
    firstPresent_foreign record (show targetPort.find? fieldNames.contains = none from rfl),
    firstPresent_foreign record (show targetUrl.find? fieldNames.contains = none from rfl),
    toInt?, toInt_number, Option.map_some, stripQuotes_quoted]
  rfl

/-! ### Pruning -/

theorem prune_http {method : Text} (nonempty : method ≠ []) (code : Option Int) (agent referer : Text) :
    (objectOf [("method", .text method), ("response_code", intLeaf code), ("user_agent", .text agent),
      ("referer", .text referer)]).prune =
      objectOf (("method", .text method) ::
        (code.map fun code => ("response_code", .int code)).toList ++
        Record.textMember "user_agent" agent ++ Record.textMember "referer" referer) := by
  obtain ⟨char, rest, rfl⟩ := List.exists_cons_of_ne_nil nonempty
  cases code <;> cases agent <;> cases referer <;> rfl

theorem prune_sections {iso host ident : Text} (stamped : iso ≠ []) (used : ident ≠ [])
    {http : Json} {kept : List (String × Json)} {first : String × Json}
    (left : http.prune = objectOf (first :: kept)) (result : Json) :
    (objectOf
      [("metadata", objectOf
        [("event_type", .text "NETWORK_HTTP".toList), ("event_timestamp", .text iso)]),
       ("principal", objectOf
        [("hostname", .null), ("ip", .array [.text host]), ("port", .null),
         ("user", objectOf [("userid", .text ident)])]),
       ("target", objectOf [("hostname", .null), ("ip", .null), ("port", .null), ("url", .null)]),
       ("network", objectOf [("http", http)]),
       ("security_result", .array [result])]).prune =
    objectOf
      [("metadata", objectOf
        [("event_type", .text "NETWORK_HTTP".toList), ("event_timestamp", .text iso)]),
       ("principal", objectOf
        [("ip", .array [.text host]), ("user", objectOf [("userid", .text ident)])]),
       ("network", objectOf [("http", objectOf (first :: kept))]),
       ("security_result", .array [result])] := by
  obtain ⟨char, rest, rfl⟩ := List.exists_cons_of_ne_nil stamped
  obtain ⟨letter, others, rfl⟩ := List.exists_cons_of_ne_nil used
  simp [objectOf, Json.prune, Json.pruneMembers, Json.isEmpty, left]

/-- **The event of a record's fields.** -/
theorem ofFields_fields (record : Record) (clock : Time.Moment) :
    (Event.ofFields clock record.fields).value = record.event := by
  have http := prune_http record.method.text_ne_nil record.code.integer? (inside record.agent)
    (inside record.referrer)
  show Json.object (membersOf (sections clock record.fields).value.prune ++ _) = _
  rw [sections_fields, Record.full, prune_sections record.date.iso_ne_nil record.ident.text_ne_nil http]
  rfl

end GrokEvents.AccessLog
