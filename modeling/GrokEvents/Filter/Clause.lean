/-
**Clauses of a filter.**

The three clauses that a filter is read for: the pattern for the message in a `grok` section, the
field and format of a `date` section, and the names in a list of fields to remove. Each clause is
looked for at every place in turn; inside a section, the last place before the first closing brace
counts.

* `messagePattern?`, `dateClause?`, `removals`: what the three clauses hold.
-/

import GrokEvents.Text.Blank

namespace GrokEvents.Filter

open Text

/-! ## Scanning -/

/-- What follows a given text, which may have white space before it. -/
def afterBlanks? (wanted text : Text) : Option Text :=
  wanted.isPrefixOf? (trimStart text)

/-- The answer at the first place that has one. -/
def atFirst? {Value : Type} (answer? : Text → Option Value) : Text → Option Value
  | [] => answer? []
  | char :: rest =>
    match answer? (char :: rest) with
    | some found => some found
    | none => atFirst? answer? rest

/-- The answer at the last place that has one, among those up to the first closing brace. -/
def atLastInside? {Value : Type} (answer? : Text → Option Value) : Text → Option Value
  | [] => answer? []
  | char :: rest =>
    match if char = '}' then none else atLastInside? answer? rest with
    | some found => some found
    | none => answer? (char :: rest)

/-- A run of characters other than the closing one, with what follows the closing one. The run may
not be empty. -/
def upTo? (closing : Char) (text : Text) : Option (Text × Text) :=
  match run (· != closing) text with
  | (_, []) => none
  | ([], _) => none
  | (inside, _ :: rest) => some (inside, rest)

/-- What is between double quotes at the start of a text, and what follows. -/
def quotedAt? : Text → Option (Text × Text)
  | '"' :: rest => upTo? '"' rest
  | _ => none

/-- What follows a name, an arrow and a text. -/
def arrow? (name wanted text : Text) : Option Text := do
  let text ← name.isPrefixOf? text
  let text ← afterBlanks? "=>".toList text
  afterBlanks? wanted text

/-! ## The message pattern -/

/-- An escaped text up to its closing quote: a backslash takes the next character with it, which may
not be a line break. -/
def escapedUpToQuote? : Text → Option Text
  | [] => none
  | [char] => if char = '"' then some [] else none
  | char :: next :: rest =>
    if char = '"' then some []
    else if char = '\\' then
      if next = '\n' then none
      else (escapedUpToQuote? rest).map fun inside => '\\' :: next :: inside
    else (escapedUpToQuote? (next :: rest)).map (char :: ·)

/-- The escaped pattern of a message entry at the start of a text. -/
def messageAt? (text : Text) : Option Text := do
  let text ← arrow? "\"message\"".toList ['"'] text
  let inside ← escapedUpToQuote? text
  if inside.isEmpty then none else some inside

/-- The escaped pattern of a match clause at the start of a text. -/
def matchAt? (text : Text) : Option Text := do
  let text ← arrow? "match".toList ['{'] text
  atLastInside? messageAt? text

/-- Undoes the escapes of backslash and quote. Escaped backslashes are set aside as NUL while
the quotes are restored. -/
def unescape (text : Text) : Text :=
  let aside := replace ['\\', '\\'] ['\x00'] text
  let restored := replace ['\\', '"'] ['"'] aside
  replace ['\x00'] ['\\'] restored

/-- The pattern for the message in the body of a `grok` section. -/
def messagePattern? (body : Text) : Option Text :=
  (atFirst? matchAt? body).map unescape

/-! ## The date clause -/

/-- The field that holds a date, and the format it is said to have. -/
structure DateClause where
  field : Text
  format : Text
deriving DecidableEq, Repr

/-- The pair of a match entry at the start of a text. -/
def datePairAt? (text : Text) : Option DateClause := do
  let text ← arrow? "match".toList ['['] text
  let (field, text) ← quotedAt? text
  let text ← [','].isPrefixOf? text
  let (format, text) ← quotedAt? (trimStart text)
  match text with
  | ']' :: _ => some ⟨field, format⟩
  | _ => none

/-- The date clause at the start of a text. -/
def dateAt? (text : Text) : Option DateClause := do
  let text ← "date".toList.isPrefixOf? text
  let text ← afterBlanks? ['{'] text
  atLastInside? datePairAt? text

/-- The first date clause of a filter. -/
def dateClause? (filter : Text) : Option DateClause :=
  atFirst? dateAt? filter

/-! ## Fields to remove -/

/-- The list of fields to remove at the start of a text, as it stands between the brackets. -/
def removalAt? (text : Text) : Option Text := do
  let text ← arrow? "remove_field".toList ['['] text
  let (inside, _) ← upTo? ']' text
  return inside

/-- The texts between double quotes, from the left; a quote that opens nothing is passed over.
`skip` more characters belong to the text read last. -/
def quotedTextsFrom : (skip : Nat) → Text → List Text
  | _, [] => []
  | skip + 1, _ :: rest => quotedTextsFrom skip rest
  | 0, char :: rest =>
    match quotedAt? (char :: rest) with
    | some (inside, _) => inside :: quotedTextsFrom (inside.length + 1) rest
    | none => quotedTextsFrom 0 rest

/-- The names in the first list of fields to remove. -/
def removals (filter : Text) : List Text :=
  ((atFirst? removalAt? filter).map (quotedTextsFrom 0)).getD []

end GrokEvents.Filter
