/-
**The class of an event.**

The action and severity of a response code, and the type of an event by the fields that are
present.
-/

import GrokEvents.Event.Leaf
import GrokEvents.Json.Basic

namespace GrokEvents.Event

/-! ## Response codes -/

/-- What became of a request. -/
inductive Action where
  | allow
  | block
  | unknown
deriving DecidableEq, Repr

/-- How grave an outcome is. -/
inductive Severity where
  | info
  | low
  | medium
  | high
  | unknown
deriving DecidableEq, Repr

/-- An action's name. -/
def Action.name : Action → String
  | .allow => "ALLOW"
  | .block => "BLOCK"
  | .unknown => "UNKNOWN"

/-- A severity's name. -/
def Severity.name : Severity → String
  | .info => "INFO"
  | .low => "LOW"
  | .medium => "MEDIUM"
  | .high => "HIGH"
  | .unknown => "UNKNOWN"

/-- The action and severity of a response code. -/
def classify : Option Int → Action × Severity
  | none => (.unknown, .unknown)
  | some code =>
    if 200 ≤ code && code < 400 then (.allow, .info)
    else if code = 401 || code = 403 then (.block, .medium)
    else if 400 ≤ code && code < 500 then (.block, .low)
    else if 500 ≤ code then (.unknown, .high)
    else (.unknown, .unknown)

/-- The fields that may hold a response code. -/
def responseCodeNames : List Text :=
  ["response_code".toList, "status_code".toList, "http_status".toList]

/-- Whether one of the names has a value that is not empty. -/
def isPresent (fields : Fields) (names : List Text) : Bool :=
  (firstPresent fields names).isSome

/-- The security result of a response code, where one of its fields is present. -/
def securityResult (fields : Fields) (code : Option Int) : Option Json :=
  if isPresent fields responseCodeNames then
    let (action, severity) := classify code
    some (.array [.object
      [("action".toList, .text action.name.toList),
       ("severity".toList, .text severity.name.toList),
       ("category".toList, .text "HTTP_REQUEST".toList)]])
  else none

/-! ## Event types -/

/-- The type of an event. -/
inductive EventType where
  | networkHttp
  | networkDns
  | networkConnection
  | userLogin
  | generic
deriving DecidableEq, Repr

/-- A type's name. -/
def EventType.name : EventType → String
  | .networkHttp => "NETWORK_HTTP"
  | .networkDns => "NETWORK_DNS"
  | .networkConnection => "NETWORK_CONNECTION"
  | .userLogin => "USER_LOGIN"
  | .generic => "GENERIC_EVENT"

/-- The types with the fields they ask for: one field of every group. The first type that has
all it asks for counts. -/
def typeRules : List (EventType × List (List Text)) :=
  [(.networkHttp, [["http_method".toList, "method".toList, "response_code".toList]]),
   (.networkDns, [["dns_query".toList, "dns_response".toList]]),
   (.networkConnection, [["src_ip".toList], ["dst_ip".toList]]),
   (.userLogin, [["user".toList, "username".toList]])]

/-- The type of an event with the given fields. -/
def inferType (fields : Fields) : EventType :=
  match typeRules.find? fun rule => rule.2.all (isPresent fields) with
  | some rule => rule.1
  | none => .generic

end GrokEvents.Event
