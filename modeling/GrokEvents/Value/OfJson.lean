/-
**JSON values as plain values.**

The values of JSON are among those that a settings file may hold.
-/

import GrokEvents.Value.Shown
import GrokEvents.Json.Basic

namespace GrokEvents.Json

mutual

/-- A JSON value as a plain value. -/
def toValue : Json → Value
  | .null => .null
  | .bool value => .bool value
  | .int value => .int value
  | .real value => .real value
  | .text value => .text value
  | .array items => .list (toValues items)
  | .object members => .mapping (toEntries members)

/-- The items of an array. -/
def toValues : List Json → List Value
  | [] => []
  | item :: rest => item.toValue :: toValues rest

/-- The members of an object. -/
def toEntries : List (Text × Json) → List (Value × Value)
  | [] => []
  | (name, value) :: rest => (.text name, value.toValue) :: toEntries rest

end

end GrokEvents.Json
