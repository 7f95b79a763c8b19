/-
**Scalars.**

The text of a scalar in each of its five styles: between single quotes, between double quotes,
literal and folded blocks, and plain. A line break inside a scalar folds to a space, and further
ones stay.
-/

import GrokEvents.Yaml.Place

namespace GrokEvents.Yaml

/-! ## Folding -/

/-- The text of a line break and the breaks after it: a lone line feed is a space, and a line feed
before other breaks is nothing. -/
def fold (first : Char) (more : Text) : Text :=
  if first != '\n' then first :: more
  else if more.isEmpty then [' ']
  else more

/-! ## Quoted scalars -/

/-- The characters that a letter after a backslash stands for. -/
def escaped? (char : Char) : Option Char :=
  match char with
  | '0' => some '\x00'
  | 'a' => some '\x07'
  | 'b' => some '\x08'
  | 't' | '\t' => some '\t'
  | 'n' => some '\n'
  | 'v' => some '\x0b'
  | 'f' => some '\x0c'
  | 'r' => some '\r'
  | 'e' => some '\x1b'
  | ' ' => some ' '
  | '"' => some '"'
  | '\\' => some '\\'
  | '/' => some '/'
  | 'N' => some '\u0085'
  | '_' => some '\u00a0'
  | 'L' => some '\u2028'
  | 'P' => some '\u2029'
  | _ => none

/-- The number of hexadecimal digits after a letter after a backslash. -/
def codeDigits? (char : Char) : Option Nat :=
  match char with
  | 'x' => some 2
  | 'u' => some 4
  | 'U' => some 8
  | _ => none

/-- The character of a code point. -/
def charOf (code : Nat) : Except Fault Char :=
  if 0x7FFFFFFF < code then .error .codeOverflow
  else if 0x10FFFF < code then .error .codeTooLarge
  else .ok (Char.ofNat code)

/-- The line breaks at the start of lines that hold nothing else, inside a quoted scalar. The mark
of a document may not stand there. -/
def quotedBreaks : Nat → Place → Except Fault (Text × Place)
  | 0, place => .ok ([], place)
  | fuel + 1, place =>
    if place.atAnyDocumentMark then .error .malformed
    else
      let place := place.skip isGap
      match place.lineBreak? with
      | some (char, place) => do
        let (more, place) ← quotedBreaks fuel place
        return (char :: more, place)
      | none => .ok ([], place)

/-- The escape after a backslash between double quotes. -/
def escape (fuel : Nat) (place : Place) : Except Fault (Text × Place) :=
  match place.peek? with
  | none => .error .malformed
  | some char =>
    match escaped? char, codeDigits? char with
    | some meant, _ => .ok ([meant], place.next)
    | none, some count =>
      let digits := (place.next.rest.take count)
      if digits.length = count && digits.all Text.isHexDigit then do
        return ([← charOf (Text.toNat 16 digits)], place.next.advance count)
      else .error .malformed
    | none, none =>
      match place.lineBreak? with
      | some (_, place) => quotedBreaks fuel place
      | none => .error .malformed

/-- The text of a quoted scalar up to its closing quote, after `read`, which is kept backwards. -/
def quotedText (double : Bool) : (fuel : Nat) → (read : Text) → Place →
    Except Fault (Text × Place)
  | 0, _, _ => .error .malformed
  | fuel + 1, read, place =>
    match place.rest with
    | [] => .error .malformed
    | char :: rest =>
      if char == '\x27' && !double then
        if rest.head? == some '\x27' then
          quotedText double fuel ('\x27' :: read) (place.advance 2)
        else .ok (read.reverse, place.next)
      else if char == '"' && double then .ok (read.reverse, place.next)
      else if char == '\\' && double then do
        let (text, place) ← escape fuel place.next
        quotedText double fuel (text.reverse ++ read) place
      else if isGap char || isBreak char then
        let (gap, place) := place.run isGap
        match place.lineBreak? with
        | some (first, place) => do
          let (more, place) ← quotedBreaks fuel place
          quotedText double fuel ((fold first more).reverse ++ read) place
        | none => quotedText double fuel (gap.reverse ++ read) place
      else quotedText double fuel (char :: read) place.next

/-- A quoted scalar, from its opening quote on. -/
def quotedScalar (double : Bool) (place : Place) : Except Fault (Text × Place) :=
  quotedText double (place.rest.length + 1) [] place.next

/-! ## Block scalars -/

/-- What becomes of the line breaks at the end of a block scalar. -/
inductive Chomping where
  | clip
  | strip
  | keep
deriving DecidableEq, Repr

/-- The chomping that a sign stands for. -/
def chomping? : Option Char → Option Chomping
  | some '+' => some .keep
  | some '-' => some .strip
  | _ => none

/-- The indentation that a digit stands for; zero is refused. -/
def indentation? (place : Place) : Except Fault (Option Nat × Place) :=
  match place.peek? with
  | some char =>
    if char == '0' then .error .malformed
    else if char.isDigit then .ok (some (Text.digitOf char), place.next)
    else .ok (none, place)
  | none => .ok (none, place)

/-- The header of a block scalar: its chomping and its indentation, in either order. -/
def blockHeader (place : Place) : Except Fault (Chomping × Option Nat × Place) := do
  let (chomping, indentation, place) ←
    match chomping? place.peek? with
    | some chomping => do
      let (indentation, place) ← indentation? place.next
      pure (chomping, indentation, place)
    | none => do
      let (indentation, place) ← indentation? place
      if indentation.isNone then pure (.clip, none, place)
      else
        match chomping? place.peek? with
        | some chomping => pure (chomping, indentation, place.next)
        | none => pure (.clip, indentation, place)
  if place.atSpaceOrEnd then return (chomping, indentation, ← place.endLine)
  else .error .malformed

/-- The place after spaces up to a column. -/
def skipSpacesTo (column : Nat) : Nat → Place → Place
  | 0, place => place
  | fuel + 1, place =>
    if place.column < column && place.peek? == some ' ' then skipSpacesTo column fuel place.next
    else place

/-- The breaks of lines with nothing in them but spaces up to a column. -/
def blockBreaks (column : Nat) : Nat → Place → Text × Place
  | 0, place => ([], place)
  | fuel + 1, place =>
    let place := skipSpacesTo column fuel place
    match place.lineBreak? with
    | some (char, place) =>
      let (more, place) := blockBreaks column fuel place
      (char :: more, place)
    | none => ([], place)

/-- The breaks of lines with nothing in them but spaces, and the greatest column that is reached by
spaces. -/
def blockIndentation : Nat → (greatest : Nat) → Place → Text × Nat × Place
  | 0, greatest, place => ([], greatest, place)
  | fuel + 1, greatest, place =>
    match place.lineBreak? with
    | some (char, place) =>
      let (more, greatest, place) := blockIndentation fuel greatest place
      (char :: more, greatest, place)
    | none =>
      if place.peek? == some ' ' then
        let place := place.next
        blockIndentation fuel (max greatest place.column) place
      else ([], greatest, place)

/-- The lines of a block scalar at a column, after `breaks`. Also the break after the last line
and the breaks after that. -/
def blockLines (folded : Bool) (column : Nat) : Nat → (breaks : Text) → Place →
    Text × Text × Text × Place
  | 0, breaks, place => ([], [], breaks, place)
  | fuel + 1, breaks, place =>
    let flush := !(place.peek?.any isGap)
    let (line, place) := place.run fun char => !isBreak char
    let (lineBreak, place) :=
      match place.lineBreak? with
      | some (char, place) => ([char], place)
      | none => ([], place)
    let (more, place) := blockBreaks column (fuel + 1) place
    if place.column = column && !place.rest.isEmpty then
      let joint :=
        if folded && lineBreak == ['\n'] && flush && !(place.peek?.any isGap) then
          if more.isEmpty then [' '] else []
        else lineBreak
      let (text, last, tail, place) := blockLines folded column fuel more place
      (breaks ++ line ++ joint ++ text, last, tail, place)
    else (breaks ++ line, lineBreak, more, place)

/-- A block scalar, from its indicator on, inside an indentation. -/
def blockScalar (folded : Bool) (indent : Int) (place : Place) : Except Fault (Text × Place) := do
  let (chomping, indentation, place) ← blockHeader place.next
  let fuel := place.rest.length + 1
  let least := (max 1 (indent + 1)).toNat
  let (breaks, column, place) :=
    match indentation with
    | some more =>
      let column := least + more - 1
      let (breaks, place) := blockBreaks column fuel place
      (breaks, column, place)
    | none =>
      let (breaks, greatest, place) := blockIndentation fuel 0 place
      (breaks, max least greatest, place)
  let (text, last, tail, place) :=
    if place.column = column && !place.rest.isEmpty then blockLines folded column fuel breaks place
    else ([], [], breaks, place)
  return (text ++ (if chomping = .strip then [] else last) ++
    (if chomping = .keep then tail else []), place)

/-! ## Plain scalars -/

/-- A character that has a meaning of its own in a flow collection. -/
def isFlowIndicator (char : Char) : Bool :=
  char == ',' || char == '[' || char == ']' || char == '{' || char == '}'

/-- The length of the word at a place. A colon ends it where a word could end after it. -/
def plainLength (inFlow : Bool) : Text → Nat
  | [] => 0
  | char :: rest =>
    let endsAfter := rest.head?.all fun next =>
      isGap next || isBreak next || (inFlow && isFlowIndicator next)
    if isGap char || isBreak char || (char == ':' && endsAfter) ||
        (inFlow && (isFlowIndicator char || char == '?')) then 0
    else plainLength inFlow rest + 1

/-- The breaks and spaces between the words of a plain scalar, where a line has ended. Nothing
when the mark of a document comes. -/
def plainBreaks : Nat → Place → Option Text × Place
  | 0, place => (some [], place)
  | fuel + 1, place =>
    if place.peek? == some ' ' then plainBreaks fuel place.next
    else
      match place.lineBreak? with
      | none => (some [], place)
      | some (char, place) =>
        if place.atAnyDocumentMark then (none, place)
        else
          let (more, place) := plainBreaks fuel place
          (more.map (char :: ·), place)

/-- What stands between two words of a plain scalar, whether a line has ended, and the place
after it. -/
def plainGap (place : Place) : Option Text × Bool × Place :=
  let (gap, place) := place.run (· == ' ')
  match place.lineBreak? with
  | none => (some gap, false, place)
  | some (first, place) =>
    if place.atAnyDocumentMark then (none, true, place)
    else
      let (more, place) := plainBreaks (place.rest.length + 1) place
      (more.map (fold first), true, place)

/-- The words of a plain scalar after `gap`, and whether its last word was followed by the end of
a line. -/
def plainWords (inFlow : Bool) (indent : Int) : Nat → (gap : Text) → (broken : Bool) → Place →
    Text × Bool × Place
  | 0, _, broken, place => ([], broken, place)
  | fuel + 1, gap, broken, place =>
    let length := plainLength inFlow place.rest
    if place.peek? == some '#' || length = 0 then ([], broken, place)
    else
      let word := gap ++ place.rest.take length
      match plainGap (place.advance length) with
      | (none, ended, place) => (word, ended, place)
      | (some [], ended, place) => (word, ended, place)
      | (some gap, ended, place) =>
        if place.peek? == some '#' || (!inFlow && (place.column : Int) < indent + 1) then
          (word, ended, place)
        else
          let (words, ended, place) := plainWords inFlow indent fuel gap ended place
          (word ++ words, ended, place)

/-- A plain scalar inside an indentation; also whether a line has ended after it. -/
def plainScalar (inFlow : Bool) (indent : Int) (place : Place) : Text × Bool × Place :=
  plainWords inFlow indent (place.rest.length + 1) [] false place

end GrokEvents.Yaml
