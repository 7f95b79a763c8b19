/-
**Words of a command line.**

A word is plain, an option, an option that nobody knows, or the two hyphens after which every word
is plain. The spelling of an option may be cut short while one option alone starts that way, a
value may stand after an equals sign, and options of one letter may share a hyphen.
-/

import GrokEvents.Entries
import GrokEvents.Text.Digit

namespace GrokEvents.CommandLine

/-- What an option asks for. -/
inductive Request where
  | help
  /-- Every notice is to be shown. -/
  | verbose
  /-- A file of settings is to be used. -/
  | settings
  /-- The result is to come without an explanation. -/
  | unexplained
  /-- Fragments are to be shown beside names. -/
  | fragments
deriving DecidableEq, Repr

/-- Whether a value goes with the request. -/
def Request.takesValue : Request → Bool
  | .settings => true
  | _ => false

/-- What options ask for, by their spellings. -/
abbrev Options := Entries Text Request

/-- A word of a command line. -/
inductive Word where
  | plain (text : Text)
  /-- An option by its full spelling; after two hyphens `value` is its value, after one hyphen its
  value or more letters. -/
  | option (request : Request) (spelling : Text) (value : Option Text)
  | unknown
  | separator
deriving DecidableEq, Repr

/-- Two hyphens. -/
def hyphens : Text := ['-', '-']

/-- What stands before the first equals sign of a word, and what stands after it, if there is one.
-/
def cutValue (word : Text) : Text × Option Text :=
  match Text.run (· != '=') word with
  | (name, []) => (name, none)
  | (name, _ :: value) => (name, some value)

/-- Whether a text holds digits only, and at least one. -/
def isDigits (text : Text) : Bool :=
  !text.isEmpty && text.all fun char => (Text.digitValue? char).isSome

/-- Whether a word is a negative number: digits after a hyphen, or a point and digits after that. A
line break may follow. -/
def isNegative (word : Text) : Bool :=
  match if word.getLast? = some '\n' then word.dropLast else word with
  | '-' :: number =>
    match Text.run (· != '.') number with
    | (whole, []) => isDigits whole
    | (whole, _ :: places) => (whole.isEmpty || isDigits whole) && isDigits places
  | _ => false

/-- The options that a word may stand for when no option is spelled like it. -/
def candidates (options : Options) : Text → List Word
  | '-' :: '-' :: rest =>
    let (name, value) := cutValue ('-' :: '-' :: rest)
    (options.filter fun entry => name.isPrefixOf entry.1).map fun entry =>
      .option entry.2 entry.1 value
  | '-' :: letter :: letters =>
    match Entries.get? ['-', letter] options with
    | some request => [.option request ['-', letter] (some letters)]
    | none => []
  | _ => []

/-- What a word with a hyphen is when no option is spelled like it; nothing when it may stand for
several options. -/
def likeOption? (options : Options) (word : Text) : Option Word :=
  match candidates options word with
  | [] => if isNegative word || word.elem ' ' then some (.plain word) else some .unknown
  | [candidate] => some candidate
  | _ => none

/-- What a word is among options; nothing when it may stand for several of them. -/
def word? (options : Options) (word : Text) : Option Word :=
  match Entries.get? word options with
  | some request => some (.option request word none)
  | none =>
    match word with
    | '-' :: _ :: _ =>
      match cutValue word with
      | (name, some value) =>
        match Entries.get? name options with
        | some request => some (.option request name (some value))
        | none => likeOption? options word
      | (_, none) => likeOption? options word
    | _ => some (.plain word)

/-- What the words of a command line are among options. -/
def words? (options : Options) : List Text → Option (List Word)
  | [] => some []
  | word :: rest =>
    if word = hyphens then some (.separator :: rest.map .plain)
    else do
      let first ← word? options word
      let others ← words? options rest
      return first :: others

end GrokEvents.CommandLine
