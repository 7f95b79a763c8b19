/-
**Arguments.**

A command line names a command, files and options. The options before the command are those of the
program, the words after it are read by the command alone. Words that nobody wants are noted and
refused at the end, so that a request for help among them is still heard.
-/

import GrokEvents.CommandLine.Word

namespace GrokEvents.CommandLine

/-- A command with the files it is to read; a name without characters is no file of settings. -/
inductive Command where
  /-- Parses a line with a configuration. -/
  | parse (log configuration settings : Text) (explain : Bool)
  /-- Lists the patterns. -/
  | patterns (settings : Text) (fragments : Bool)
  /-- Judges the sections of a configuration. -/
  | check (configuration : Text)
deriving DecidableEq, Repr

/-- A command line that asks for a command. -/
structure Invocation where
  verbose : Bool
  command : Command
deriving DecidableEq, Repr

/-- Why a command line asks for no command. -/
inductive Stop where
  | help
  | misuse
  /-- Two hyphens in the place of a file, after others that count as none. -/
  | lostWord
deriving DecidableEq, Repr

/-! ## Requests -/

/-- The requests of an option and the letters that share its hyphen. A value that no letter is left
to take goes to the last request. -/
def letters? (options : Options) (request : Request) :
    Text → Option (List (Request × Option Text))
  | [] => some [(request, none)]
  | letter :: letters =>
    if request.takesValue then some [(request, some (letter :: letters))]
    else do
      let next ← Entries.get? ['-', letter] options
      let others ← letters? options next letters
      return (request, none) :: others

/-- The requests of an option. -/
def requests? (options : Options) (request : Request) (spelling : Text) :
    Option Text → Option (List (Request × Option Text))
  | none => some [(request, none)]
  | some value =>
    if request.takesValue then some [(request, some value)]
    else if hyphens.isPrefixOf spelling || value.isEmpty then none
    else letters? options request value

/-- What has been read of a command line. -/
structure Reading where
  /-- The words with places of their own, the last one first; a lost word is absent. -/
  places : List (Option Text) := []
  requests : List Request := []
  settings : Text := []
  /-- Whether there was a word that nobody wants. -/
  surplus : Bool := false
deriving DecidableEq, Repr

namespace Reading

/-- Notes a word that nobody wants. -/
def discard (reading : Reading) : Reading :=
  { reading with surplus := true }

/-- Notes a word in a place of its own. -/
def place (reading : Reading) (word : Option Text) : Reading :=
  { reading with places := word :: reading.places }

/-- Notes requests in order. Two hyphens are no value. -/
def ask (reading : Reading) : List (Request × Option Text) → Except Stop Reading
  | [] => .ok reading
  | (.help, _) :: _ => .error .help
  | (.settings, value) :: rest =>
    let name := value.getD []
    ask { reading with settings := if name = hyphens then [] else name } rest
  | (request, _) :: rest => ask { reading with requests := request :: reading.requests } rest

/-- Reads words of which `wanted` more have places of their own. Two hyphens count as none beside
such a word: after one that has just been placed, or before one. -/
def scan (options : Options) : (wanted : Nat) → (placed : Bool) → Reading → List Word →
    Except Stop Reading
  | wanted, _, reading, [] => if wanted = 0 then .ok reading else .error .misuse
  | 0, _, reading, .plain _ :: rest => scan options 0 false reading.discard rest
  | wanted + 1, _, reading, .plain text :: rest =>
    scan options wanted true (reading.place (if text = hyphens then none else some text)) rest
  | wanted, true, reading, .separator :: rest => scan options wanted false reading rest
  | wanted + 1, false, reading, .separator :: .plain text :: rest =>
    scan options wanted true (reading.place (some text)) rest
  | wanted, false, reading, .separator :: rest => scan options wanted false reading.discard rest
  | wanted, _, reading, .unknown :: rest => scan options wanted false reading.discard rest
  | wanted, _, reading, .option request spelling value :: rest => do
    let requests ← ((requests? options request spelling value).map .ok).getD (.error .misuse)
    match requests.getLast?, rest with
    | some (.settings, none), .plain value :: rest =>
      scan options wanted false (← reading.ask (requests.dropLast ++ [(.settings, some value)])) rest
    | some (.settings, none), _ => .error .misuse
    | _, rest => scan options wanted false (← reading.ask requests) rest

end Reading

/-! ## Commands -/

/-- The options of the program. -/
def programOptions : Options :=
  [("-h".toList, .help), ("--help".toList, .help),
   ("-v".toList, .verbose), ("--verbose".toList, .verbose)]

/-- The options that every command has. -/
def commonOptions : Options :=
  [("-h".toList, .help), ("--help".toList, .help)]

/-- The option of a file of settings. -/
def settingsOptions : Options :=
  commonOptions ++ [("--patterns".toList, .settings)]

/-- Reads the words of a command of which `wanted` have places of their own. -/
def readCommand (options : Options) (wanted : Nat) (words : List Text) : Except Stop Reading := do
  let words ← ((words? options words).map .ok).getD (.error .misuse)
  Reading.scan options wanted false {} words

/-- The command of a name, with the words after it. The flag tells of a word that nobody wants. -/
def readNamed (name : Text) (words : List Text) (surplus : Bool) : Except Stop Command := do
  if name = "parse".toList then
    let reading ← readCommand (settingsOptions ++ [("--no-explain".toList, .unexplained)]) 2 words
    if surplus || reading.surplus then throw .misuse
    match reading.places with
    | [some configuration, some log] =>
      return .parse log configuration reading.settings (!reading.requests.elem .unexplained)
    | _ => throw .lostWord
  else if name = "patterns".toList then
    let reading ← readCommand (settingsOptions ++ [("--show".toList, .fragments)]) 0 words
    if surplus || reading.surplus then throw .misuse
    return .patterns reading.settings (reading.requests.elem .fragments)
  else if name = "check".toList then
    let reading ← readCommand commonOptions 1 words
    if surplus || reading.surplus then throw .misuse
    match reading.places with
    | [some configuration] => return .check configuration
    | _ => throw .lostWord
  else throw .misuse

namespace Invocation

/-- Reads the program's own options up to the command, and then the command. -/
def scan (verbose surplus : Bool) : List (Text × Word) → Except Stop Invocation
  | [] => .error .misuse
  | (name, .plain _) :: rest => do
    return ⟨verbose, ← readNamed name (rest.map Prod.fst) surplus⟩
  | (_, .separator) :: _ => .error .misuse
  | (_, .unknown) :: rest => scan verbose true rest
  | (_, .option request spelling value) :: rest => do
    match requests? programOptions request spelling value with
    | none => .error .misuse
    | some requests =>
      let asked ← Reading.ask {} requests
      scan (verbose || asked.requests.elem .verbose) surplus rest

/-- Reads a command line. All its words are judged by the program's own options before any is
heard. -/
def ofWords (words : List Text) : Except Stop Invocation :=
  match words? programOptions words with
  | none => .error .misuse
  | some judged => scan false false (words.zip judged)

end Invocation

end GrokEvents.CommandLine
