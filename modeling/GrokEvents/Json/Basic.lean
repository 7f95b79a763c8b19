/-
**JSON values.**

Objects keep the order of their members.
-/

import GrokEvents.Entries
import GrokEvents.Text.Basic

namespace GrokEvents

/-- A JSON value. -/
inductive Json where
  | null
  | bool (value : Bool)
  | int (value : Int)
  | real (value : Float)
  | text (value : Text)
  | array (items : List Json)
  | object (members : List (Text × Json))
deriving Inhabited, BEq

namespace Json

/-- The member of an object under a name; what is no object has none. -/
def get? (name : Text) : Json → Option Json
  | .object members => Entries.get? name members
  | _ => none

/-- Whether a value is null. -/
def isNull : Json → Bool
  | .null => true
  | _ => false

/-- Whether a value is null, or an empty text, array or object. -/
def isEmpty : Json → Bool
  | .null | .text [] | .array [] | .object [] => true
  | _ => false

/-- An object of texts. -/
def ofFields (fields : Entries Text Text) : Json :=
  .object (fields.map fun entry => (entry.1, .text entry.2))

end Json

end GrokEvents
