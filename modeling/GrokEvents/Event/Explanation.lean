/-
**Explanations.**

A Markdown text that shows the fields of a line, the event made of them, and how its main leaves
came about; and the text that stands in its place when a line could not be parsed.

* `explain`: the explanation of an event.
-/

import GrokEvents.Json.Printer
import GrokEvents.Event.OfFields
import GrokEvents.Value.OfJson

namespace GrokEvents.Event

/-! ## Failure -/

/-- The lines that explain why a line was not parsed. -/
def failureLines : List String :=
  ["## Parsing Failed",
   "",
   "The log could not be parsed with the provided Logstash configuration.",
   "",
   "### Possible Issues:",
   "",
   "1. **Grok pattern mismatch**: The grok pattern may not match the log format",
   "2. **Invalid configuration**: Check your Logstash filter configuration syntax",
   "3. **Missing fields**: Ensure the log contains the expected fields",
   "",
   "### Tips:",
   "",
   "- Test your grok patterns incrementally",
   "- Use simpler patterns first, then add complexity",
   "- Check for escaping issues in the pattern",
   "- Verify that field names don't contain special characters"]

/-- The text that explains why a line was not parsed. -/
def failureExplanation : Text :=
  Text.join ['\n'] (failureLines.map String.toList)

/-! ## Success -/

/-- What may be done with an event. -/
def suggestions : List String :=
  ["**Enrich with context**: " ++
      "Consider adding more contextual fields like geographic location or threat intelligence",
   "**Normalize timestamps**: " ++
      "Ensure all timestamps are in ISO 8601 format",
   "**Add security context**: " ++
      "Include threat indicators or anomaly scores if available",
   "**Validate data types**: " ++
      "Ensure numeric fields (ports, response codes) are properly typed"]

/-- A document between fences. -/
def jsonBlock (value : Json) : Text :=
  "```json\n".toList ++ value.print ++ "\n```\n\n".toList

/-- The text of a value inside a sentence: a text stands as it is. -/
def inSentence : Json → Text
  | .text value => value
  | value => value.toValue.shown

/-- A list item about a leaf. -/
def mappingLine (label : String) (value : Json) (meaning : String) : Text :=
  "- **".toList ++ label.toList ++ "**: ".toList ++ inSentence value ++ " - ".toList ++
    meaning.toList ++ ['\n']

/-- Whether a leaf holds something. -/
def isFilled : Json → Bool
  | .null | .bool false | .text [] | .array [] | .object [] => false
  | .int value => value != 0
  | .real value => value != 0.0
  | _ => true

/-- The member of a member, from an object on down. -/
def lookUp (event : Json) : List String → Option Json
  | [] => some event
  | name :: names => (event.get? name.toList).bind fun member => lookUp member names

/-- The first item of an array, or the first character of a text. -/
def firstItem? : Json → Option Json
  | .array (first :: _) => some first
  | .text (first :: _) => some (.text [first])
  | _ => none

/-- The lines about the main leaves of an event. -/
def mappingLines (event : Json) : List Text :=
  [((lookUp event ["principal", "ip"]).bind firstItem?).map fun ip =>
      mappingLine "Principal IP" ip "Represents the source/client making the request",
   ((lookUp event ["network", "http", "method"]).filter isFilled).map fun method =>
      mappingLine "HTTP Method" method "The HTTP verb used in the request",
   ((lookUp event ["network", "http", "response_code"]).filter fun code => !code.isNull).map
      fun code => mappingLine "Response Code" code "The HTTP status code returned",
   ((lookUp event ["metadata", "event_type"]).filter isFilled).map fun type =>
      mappingLine "Event Type" type "Inferred type based on the parsed fields"].filterMap id

/-- The suggestions as a numbered list. -/
def suggestionLines : List Text :=
  suggestions.zipIdx.map fun entry =>
    Text.ofNat (entry.2 + 1) ++ ". ".toList ++ entry.1.toList ++ ['\n']

/-- The explanation of an event and the fields it was made of. -/
def explain (fields : Fields) (event : Json) : Text :=
  "## UDM Mapping Explanation\n\n".toList ++
  "### Parsed Fields\n\n".toList ++
  "The following fields were extracted from the raw log:\n\n".toList ++
  jsonBlock (Json.ofFields fields) ++
  "### UDM Event Structure\n\n".toList ++
  "The parsed fields were mapped to the UDM model as follows:\n\n".toList ++
  jsonBlock event ++
  "### Field Mappings\n\n".toList ++
  (mappingLines event).flatten ++
  "\n### Suggestions\n\n".toList ++
  suggestionLines.flatten

end GrokEvents.Event
