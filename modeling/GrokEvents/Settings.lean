/-
**Settings.**

Settings give the budget of passes and further patterns. They come from a document: a mapping
whose entry `grok` is a mapping, in which `max_iterations` and `patterns` may stand. How a file is
loaded as a document is up to a loader.

* `Settings.ofDocument`, `Settings.ofFile`: the settings of a document and of a file.
* `Settings.complaints`: what is wrong with the settings of a file.
-/

import GrokEvents.Grok.Compiler
import GrokEvents.File

namespace GrokEvents

open Grok

/-- Why settings are refused. -/
inductive SettingsError where
  | invalidBudget (given : Value)
  | pattern (error : RegistryError)
  | patternsNotMapping
  | grokNotMapping
  | documentNotMapping (path : Text)
  | unopened (path : Text) (fault : OpenFault)
  | unloaded (fault : LoadFault)

namespace SettingsError

/-- The text of a refusal. -/
def message : SettingsError → Text
  | .unopened path fault => "Cannot read ".toList ++ path ++ ':' :: ' ' :: fault.message path
  | .unloaded (.malformed detail) => "YAML parse error: ".toList ++ detail
  | .unloaded (.refused message) => message
  | .unloaded (.failed failure) => failure.message
  | .invalidBudget given => given.message "max_iterations must be an integer >= 1, got ".toList []
  | .pattern error => error.message
  | .patternsNotMapping => "grok.patterns must be a mapping of NAME: fragment".toList
  | .grokNotMapping => "grok section must be a mapping".toList
  | .documentNotMapping path =>
    "Settings file ".toList ++ path ++ " must contain a mapping".toList

/-- The failure of loading that is no refusal of settings and ends whatever asked for them. -/
def failure? : SettingsError → Option LoadFailure
  | .unloaded (.failed failure) => some failure
  | _ => none

end SettingsError

/-- The settings of a compiler. -/
structure Settings where
  /-- The budget of passes as it was given: an integer, or the boolean that counts as one. -/
  budget : Value
  passes : Nat
  /-- The patterns beside the built-in ones. -/
  patterns : List (Text × Text)

namespace Settings

/-- The number of passes that a value stands for. -/
def passes? : Value → Option Nat
  | .int count => if 1 ≤ count then some count.toNat else none
  | .bool true => some 1
  | _ => none

/-- The budget of settings that give none. -/
def defaultBudget : Value :=
  .int Compiler.defaultPasses

/-- The settings that hold where none are given. -/
def default : Settings :=
  ⟨defaultBudget, Compiler.defaultPasses, []⟩

/-- Settings, once they are known to be good. The budget is judged first. -/
def create (budget : Value) (patterns : List (Value × Value)) : Except SettingsError Settings :=
  match passes? budget with
  | none => .error (.invalidBudget budget)
  | some passes =>
    match patterns.mapM Registry.checkEntry with
    | .error error => .error (.pattern error)
    | .ok patterns => .ok ⟨budget, passes, patterns⟩

/-- The registry that settings ask for. -/
def registry (settings : Settings) : Registry :=
  .layered settings.patterns

/-- The compiler that settings ask for. -/
def compiler (settings : Settings) : Compiler :=
  .fresh settings.registry settings.passes Compiler.defaultCacheSize

/-- The entries of a mapping; a value that counts as nothing is an empty mapping. -/
def entriesOf (error : SettingsError) : Value → Except SettingsError (List (Value × Value))
  | .mapping entries => .ok entries
  | value => if value.isVoid then .ok [] else .error error

/-- The settings of a document; `path` is where it was read from. -/
def ofDocument (path : Text) (document : Value) : Except SettingsError Settings := do
  let top ← entriesOf (.documentNotMapping path) document
  let grok ← entriesOf .grokNotMapping ((Value.getText? "grok".toList top).getD .null)
  let patterns ←
    entriesOf .patternsNotMapping ((Value.getText? "patterns".toList grok).getD .null)
  create ((Value.getText? "max_iterations".toList grok).getD defaultBudget) patterns

/-- The settings of a file; `path` is its name. -/
def ofFile (load : Loader) (files : Files) (path : Text) : Except SettingsError Settings := do
  let bytes ← (files path).mapError (.unopened path)
  ofDocument path (← (load bytes).mapError .unloaded)

/-- The complaints about the settings of a file: none where they are good. A failure of loading is
none of them. -/
def complaints (load : Loader) (files : Files) (path : Text) : Except LoadFailure (List Text) :=
  match ofFile load files path with
  | .ok _ => .ok []
  | .error error =>
    match error.failure? with
    | some failure => .error failure
    | none => .ok [error.message]

end Settings

end GrokEvents
