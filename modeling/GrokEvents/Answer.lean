/-
**Answers about a log line.**

A line is parsed with a configuration, its fields become an event, and the event is explained. Bad
input is no error: it is answered with a status and a message.

* `transform`: what is answered, and the compiler to go on with.
-/

import GrokEvents.Event.Explanation

namespace GrokEvents

open Grok

/-- What is answered about a line and a configuration. -/
inductive Answer where
  /-- The line or the configuration is missing. -/
  | missingInput
  /-- The line could not be parsed. -/
  | unparsed
  /-- The fields of the line, their event, and perhaps an explanation. -/
  | transformed (fields : Fields) (event : Json) (explanation : Option Text)

namespace Answer

/-- The status code of an answer. -/
def status : Answer → Nat
  | .missingInput | .unparsed => 400
  | .transformed .. => 200

/-- Whether an answer holds an event. -/
def isSuccess : Answer → Bool
  | .missingInput | .unparsed => false
  | .transformed .. => true

/-- The body of an answer. -/
def body : Answer → Json
  | .missingInput =>
    Event.objectOf
      [("message", .text "Missing required fields: rawLogEvent or parserCode".toList)]
  | .unparsed =>
    Event.objectOf
      [("message", .text "Failed to parse log".toList),
       ("explanation", .text Event.failureExplanation)]
  | .transformed fields event explanation =>
    Event.objectOf
      [("success", .bool true),
       ("parsed", Json.ofFields fields),
       ("udm", event),
       ("explanation", Event.textLeaf explanation)]

end Answer

/-- Parses a line with a configuration and maps the result to an event. -/
def transform [Expr.Engine] (clock : Time.Moment) (compiler : Compiler)
    (log configuration : Option Text) (explain : Bool) :
    Logged (Except Expr.Fault Answer × Compiler) := do
  match log.filter (!·.isEmpty), configuration.filter (!·.isEmpty) with
  | some log, some configuration =>
    match ← Filter.run clock compiler log configuration with
    | (.error fault, compiler) => return (.error fault, compiler)
    | (.ok none, compiler) =>
      Logged.note .parseFailed
      return (.ok .unparsed, compiler)
    | (.ok (some fields), compiler) =>
      let event ← Event.ofFields clock fields
      Logged.note .mapped
      let explanation := if explain then some (Event.explain fields event) else none
      return (.ok (.transformed fields event explanation), compiler)
  | _, _ => return (.ok .missingInput, compiler)

end GrokEvents
