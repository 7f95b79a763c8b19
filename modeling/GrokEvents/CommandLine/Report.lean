/-
**Reports.**

Carrying out a command ends in a report, the printed text and the exit code, unless a file cannot
be read or loaded, or an expression cannot be built.

* `Ending`: a report, or a breakdown.
* `Command.ending`, `Invocation.ending`: how commands end.
-/

import GrokEvents.CommandLine.Arguments
import GrokEvents.Json.Printer
import GrokEvents.Answer
import GrokEvents.Settings

namespace GrokEvents.CommandLine

/-- What a command prints, and the code it exits with. -/
structure Report where
  exitCode : Nat
  output : Text
deriving DecidableEq, Repr

/-- What ends a command without a report. -/
inductive Breakdown where
  | lostWord
  | unopened (name : Text) (fault : OpenFault)
  | undecodable (fault : Text.Utf8Fault)
  | unloaded (failure : LoadFailure)
  | expression (fault : Expr.Fault)

namespace Breakdown

/-- The text of a breakdown. -/
def message : Breakdown → Text
  | .lostWord => "expected str, bytes or os.PathLike object, not list".toList
  | .unopened name fault => fault.message name
  | .undecodable fault => fault.message
  | .unloaded failure => failure.message
  | .expression fault => fault.message

end Breakdown

/-- How a command ends. -/
inductive Ending where
  | report (report : Report)
  | breakdown (fault : Breakdown)

namespace Ending

/-- The ending that prints lines. -/
def lines (exitCode : Nat) (lines : List Text) : Ending :=
  .report ⟨exitCode, lines.flatMap (· ++ ['\n'])⟩

end Ending

/-- The text of a file. -/
def textOf (files : Files) (name : Text) : Except Ending Text := do
  let bytes ← (files name).mapError fun fault => .breakdown (.unopened name fault)
  (File.text bytes).mapError fun fault => .breakdown (.undecodable fault)

/-- The settings of a file, or those that hold by default where no file is named. -/
def settingsOf (load : Loader) (files : Files) : Text → Except Ending Settings
  | [] => .ok .default
  | name =>
    let path := File.normalize name
    (Settings.ofFile load files path).mapError fun error =>
      match error.failure? with
      | some failure => .breakdown (.unloaded failure)
      | none =>
        .lines 1 ["Invalid settings file ".toList ++ path ++ [':'],
          "  - ".toList ++ error.message]

/-! ## Commands -/

/-- Parses the line in a file with the configuration in another one. -/
def reportParse [Expr.Engine] (load : Loader) (clock : Time.Moment) (files : Files)
    (log configuration settings : Text) (explain : Bool) : Except Ending (Logged Ending) := do
  let log := File.normalize log
  let configuration := File.normalize configuration
  match [log, configuration].find? fun name => !File.exists? files name with
  | some name => throw (.lines 1 ["Error: file not found: ".toList ++ name])
  | none =>
    let settings ← settingsOf load files settings
    let line ← textOf files log
    let filter ← textOf files configuration
    return do
      match (← transform clock settings.compiler (some line) (some filter) explain).1 with
      | .error fault => return .breakdown (.expression fault)
      | .ok answer => return .lines (if answer.isSuccess then 0 else 1) [Json.print answer.body]

/-- A name, filled with blanks to the width of a column, and the fragment it means. -/
def patternLine (registry : Grok.Registry) (name : Text) : Text :=
  name ++ List.replicate (20 - name.length) ' ' ++ ' ' :: registry.fragment name

/-- Lists the patterns. -/
def reportPatterns (load : Loader) (files : Files) (settings : Text) (fragments : Bool) :
    Except Ending Ending := do
  let registry := (← settingsOf load files settings).registry
  return .lines 0 (registry.sortedNames.map fun name =>
    if fragments then patternLine registry name else name)

/-- Whether a section of a keyword is there, in a line. -/
def sectionLine (filter : Text) (keyword : String) : Text :=
  keyword.toList ++ ':' :: ' ' ::
    if (Filter.section? keyword.toList filter).isSome then "ok".toList else "absent".toList

/-- Judges the sections of a configuration, up to the first that keeps it from being used. -/
def judge (configuration : Text) : Ending :=
  match Filter.section? "filter".toList configuration with
  | none => .lines 1 ["filter: missing or unbalanced".toList]
  | some filter =>
    let filterLine := "filter: ok".toList
    match Filter.section? "grok".toList filter with
    | none => .lines 1 [filterLine, "grok: missing or unbalanced".toList]
    | some grok =>
      match Filter.messagePattern? grok with
      | none =>
        .lines 1 [filterLine, "grok: no match => \x7b \"message\" => ... \x7d".toList]
      | some source =>
        .lines 0 [filterLine, "grok: ".toList ++ source, sectionLine filter "date",
          sectionLine filter "mutate"]

/-- Judges the configuration in a file. -/
def reportCheck (files : Files) (configuration : Text) : Except Ending Ending := do
  let name := File.normalize configuration
  if File.exists? files name then
    return judge (Text.trim (← textOf files name))
  else throw (.lines 1 ["Error: config file not found: ".toList ++ name])

/-- Carries out a command. -/
def Command.ending [Expr.Engine] (load : Loader) (clock : Time.Moment) (files : Files) :
    Command → Logged Ending
  | .parse log configuration settings explain =>
    match reportParse load clock files log configuration settings explain with
    | .ok ending => ending
    | .error ending => pure ending
  | .patterns settings fragments =>
    match reportPatterns load files settings fragments with
    | .ok ending | .error ending => pure ending
  | .check configuration =>
    match reportCheck files configuration with
    | .ok ending | .error ending => pure ending

/-- The files that a command may read. -/
def Command.names : Command → List Text
  | .parse log configuration settings _ => [log, configuration, settings].map File.normalize
  | .patterns settings _ => [File.normalize settings]
  | .check configuration => [File.normalize configuration]

/-- Carries out what a command line asks for. Notices below the level of information are shown only
on request. -/
def Invocation.ending [Expr.Engine] (load : Loader) (clock : Time.Moment) (files : Files)
    (invocation : Invocation) : Logged Ending :=
  let ending := invocation.command.ending load clock files
  ⟨ending.value, ending.notices.filter fun notice =>
    invocation.verbose || Level.info.rank ≤ notice.level.rank⟩

end GrokEvents.CommandLine
