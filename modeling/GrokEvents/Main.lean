/-
**The program.**

Reads the files that the command line names, prints the report and leaves with its exit code.
Notices and complaints go to the error stream.
-/

import GrokEvents.CommandLine.Report
import GrokEvents.Yaml.Document
import Std.Time.DateTime.Timestamp

open GrokEvents CommandLine

namespace GrokEvents.Program

/-- How the program is used. -/
def usage : String :=
  "usage: grok-events [-h] [-v] parse [--patterns FILE] [--no-explain] LOG CONFIG\n" ++
  "       grok-events [-h] [-v] patterns [--patterns FILE] [--show]\n" ++
  "       grok-events [-h] [-v] check CONFIG"

/-- What opening a file leads to. -/
def opened (name : Text) : IO Opened := do
  try
    let bytes ← IO.FS.readBinFile (String.ofList name)
    return .ok (bytes.toList.map UInt8.toNat)
  catch
    | .noFileOrDirectory .. => return .error .missing
    | .inappropriateType _ code _ =>
      return .error (if code = 21 then .directory else .notDirectory)
    | .permissionDenied .. => return .error .denied
    | _ => return .error .missing

/-- The clock. -/
def clock : IO Time.Moment := do
  let now ← Std.Time.Timestamp.now
  return .sinceEpoch (now.toNanosecondsSinceUnixEpoch.val / 1000).toNat

/-- Carries out an invocation. -/
def carryOut (invocation : Invocation) : IO UInt32 := do
  let known ← invocation.command.names.mapM fun name => return (name, ← opened name)
  let files : Files := fun name => (Entries.get? name known).getD (.error .missing)
  let ending := invocation.ending Yaml.load (← clock) files
  for notice in ending.notices do
    IO.eprintln (notice.level.name ++ " " ++ notice.channel ++ ": " ++ notice.template)
  match ending.value with
  | .report report =>
    IO.print (String.ofList report.output)
    return report.exitCode.toUInt32
  | .breakdown fault =>
    IO.eprintln (String.ofList fault.message)
    return 1

end GrokEvents.Program

/-- Answers a command line. -/
def main (words : List String) : IO UInt32 := do
  match Invocation.ofWords (words.map String.toList) with
  | .ok invocation => Program.carryOut invocation
  | .error .help =>
    IO.println Program.usage
    return 0
  | .error .misuse =>
    IO.eprintln Program.usage
    return 2
  | .error .lostWord =>
    IO.eprintln (String.ofList Breakdown.lostWord.message)
    return 1
