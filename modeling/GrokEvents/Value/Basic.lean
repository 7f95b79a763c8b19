/-
**Plain values.**

What a settings file may hold: null, booleans, numbers, texts, bytes, dates, lists and mappings.
Two keys of a mapping are the same when they are equal as values; numbers and booleans are equal
across their types when they denote the same number.

* `same_text`: a text is the same as itself and as no other text.
-/

import GrokEvents.Time.Calendar
import GrokEvents.Number.Shortest

namespace GrokEvents

/-- A plain value. -/
inductive Value where
  | null
  | bool (value : Bool)
  | int (value : Int)
  | real (value : Float)
  | text (value : Text)
  | bytes (value : List Nat)
  | date (value : Time.Date)
  | moment (value : Time.Moment)
  | list (items : List Value)
  /-- Two values that belong together. -/
  | pair (first second : Value)
  /-- Values without order or repetition. -/
  | set (items : List Value)
  | mapping (entries : List (Value × Value))
  /-- A collection that holds itself, at the place where it comes up again. -/
  | again (isMapping : Bool)
deriving Inhabited

namespace Value

/-- The number that a value denotes as a fraction, if it is a finite number or a boolean. -/
def fraction? : Value → Option (Int × Nat)
  | .bool value => some (if value then 1 else 0, 1)
  | .int value => some (value, 1)
  | .real value =>
    match Number.decode value.toBits.toNat with
    | .finite negative binary =>
      let (up, down) := Number.powerFraction 2 binary.exponent
      let size : Int := binary.mantissa * up
      some (if negative then -size else size, down)
    | _ => none
  | _ => none

/-- Whether two keys of a mapping are the same. -/
def same (first second : Value) : Bool :=
  match first.fraction?, second.fraction? with
  | some (one, under), some (two, beneath) => one * beneath == two * under
  | some _, none | none, some _ => false
  | none, none =>
    match first, second with
    | .null, .null => true
    | .real one, .real two => one == two
    | .text one, .text two => one == two
    | .bytes one, .bytes two => one == two
    | .date one, .date two => one == two
    | .moment one, .moment two => one == two
    | _, _ => false

/-- Writes a value under a key: in place when the key is known, else at the end. -/
def putEntry (key value : Value) : List (Value × Value) → List (Value × Value)
  | [] => [(key, value)]
  | (known, old) :: rest =>
    if known.same key then (known, value) :: rest else (known, old) :: putEntry key value rest

/-- The entries with each later entry of a key in the place of the earlier one. -/
def mergeEntries (entries : List (Value × Value)) : List (Value × Value) :=
  entries.foldl (fun merged entry => putEntry entry.1 entry.2 merged) []

/-- The value under a text as key. -/
def getText? (key : Text) : List (Value × Value) → Option Value
  | [] => none
  | (.text name, value) :: rest => if name = key then some value else getText? key rest
  | _ :: rest => getText? key rest

theorem same_text (first second : Text) :
    (Value.text first).same (.text second) = true ↔ first = second := by
  simp [same, fraction?]

/-- Whether a value counts as nothing: null, false, zero, or empty. -/
def isVoid : Value → Bool
  | .null | .bool false | .text [] | .bytes [] | .list [] | .set [] | .mapping [] => true
  | .int value => value == 0
  | .real value => value == 0.0
  | _ => false

end Value

end GrokEvents
