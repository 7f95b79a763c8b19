/-
**From fields to an event.**

Each leaf of an event is fed by a chain of field names, of which the first with a value counts.
What is empty is pruned; the fields themselves are kept beside the event as they came.

* `sections`: every leaf of an event by the chain that feeds it.
* `ofFields`: the event of the fields of a line.
-/

import GrokEvents.Event.Classification
import GrokEvents.Event.Prune

namespace GrokEvents.Event

/-! ## Chains of names -/

/-- The chain of field names that feeds a leaf. -/
def chain (names : List String) : List Text :=
  names.map String.toList

/-- The address of the client. -/
def principalIp : List Text :=
  chain ["client_ip", "src_ip", "source_ip"]

/-- The host name of the client. -/
def principalHostname : List Text :=
  chain ["client_hostname", "src_hostname"]

/-- The socket number of the client. -/
def principalPort : List Text :=
  chain ["client_port", "src_port"]

/-- The user at the client. -/
def principalUser : List Text :=
  chain ["user", "username", "ident"]

/-- The address of the server. -/
def targetIp : List Text :=
  chain ["dst_ip", "dest_ip", "target_ip"]

/-- The host name of the server. -/
def targetHostname : List Text :=
  chain ["dst_hostname", "dest_hostname", "target_hostname"]

/-- The socket number of the server. -/
def targetPort : List Text :=
  chain ["dst_port", "dest_port", "target_port"]

/-- The address of the resource asked for. -/
def targetUrl : List Text :=
  chain ["url", "request_url"]

/-- The verb of a request. -/
def httpMethod : List Text :=
  chain ["http_method", "method"]

/-- The program that made a request. -/
def httpUserAgent : List Text :=
  chain ["user_agent", "useragent"]

/-- The page that a request came from. -/
def httpReferer : List Text :=
  chain ["referrer", "referer"]

/-! ## Leaves -/

/-- A text, or null. -/
def textLeaf (value : Option Text) : Json :=
  (value.map Json.text).getD .null

/-- An integer, or null. -/
def intLeaf (value : Option Int) : Json :=
  (value.map Json.int).getD .null

/-- An array of one text, or null. -/
def listLeaf (value : Option Text) : Json :=
  (value.map fun text => Json.array [.text text]).getD .null

/-- The type of an event, or null where it is a generic one. -/
def typeLeaf (fields : Fields) : Json :=
  match inferType fields with
  | .generic => .null
  | type => .text type.name.toList

/-- The timestamp of an event: the one of a date clause as it is, else one read from the line. -/
def timestampLeaf (clock : Time.Moment) (fields : Fields) : Logged Json :=
  match firstPresent fields [Filter.timestampField] with
  | some value => pure (.text value)
  | none =>
    match firstPresent fields ["timestamp".toList] with
    | some value => do return .text (← Time.parseTimestamp clock value)
    | none => pure .null

/-! ## Events -/

/-- An object whose members are named by strings. -/
def objectOf (members : List (String × Json)) : Json :=
  .object (members.map fun member => (member.1.toList, member.2))

/-- All sections of an event that are pruned, empty leaves included. -/
def sections (clock : Time.Moment) (fields : Fields) : Logged Json := do
  let code ← toInt? (firstPresent fields responseCodeNames)
  let timestamp ← timestampLeaf clock fields
  let ownPort ← toInt? (firstPresent fields principalPort)
  let otherPort ← toInt? (firstPresent fields targetPort)
  return objectOf
    [("metadata", objectOf
      [("event_type", typeLeaf fields),
       ("event_timestamp", timestamp)]),
     ("principal", objectOf
      [("hostname", textLeaf (firstPresent fields principalHostname)),
       ("ip", listLeaf (firstPresent fields principalIp)),
       ("port", intLeaf ownPort),
       ("user", objectOf [("userid", textLeaf (firstPresent fields principalUser))])]),
     ("target", objectOf
      [("hostname", textLeaf (firstPresent fields targetHostname)),
       ("ip", listLeaf (firstPresent fields targetIp)),
       ("port", intLeaf otherPort),
       ("url", textLeaf (firstPresent fields targetUrl))]),
     ("network", objectOf
      [("http", objectOf
        [("method", textLeaf (firstPresent fields httpMethod)),
         ("response_code", intLeaf code),
         ("user_agent", textLeaf ((firstPresent fields httpUserAgent).map stripQuotes)),
         ("referer", textLeaf ((firstPresent fields httpReferer).map stripQuotes))])]),
     ("security_result", (securityResult fields code).getD .null)]

/-- The members of an object; what is no object has none. -/
def membersOf : Json → List (Text × Json)
  | .object members => members
  | _ => []

/-- The event of the fields of a line. -/
def ofFields (clock : Time.Moment) (fields : Fields) : Logged Json := do
  let full ← sections clock fields
  return .object (membersOf full.prune ++
    [("additional".toList, objectOf [("parsed_fields", Json.ofFields fields)])])

end GrokEvents.Event
