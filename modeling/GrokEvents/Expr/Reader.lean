/-
**Reading an expression.**

From the text of an expression to its tree, the number of its capturing groups and their names.
The reader keeps a ledger of the groups met so far: a reference is good only to a group that is
closed, and within a look-behind only to one that was opened before it.

* `read`: the expression of a text, or what is wrong with it.
* `read_of_unnamed`: names do not matter to a text that asks for none.
-/

import GrokEvents.Expr.Modes
import GrokEvents.Expr.Quantifier

namespace GrokEvents.Expr

/-- An expression with the number of its capturing groups and the names among them, by number. -/
structure Expression where
  node : Node
  groupCount : Nat
  names : List (Text × Nat)
deriving DecidableEq, Repr

/-! ## Scope and ledger -/

/-- What holds for a whole group: the modes, and the number of the first group opened
within the outermost look-behind around it. -/
structure Scope where
  modes : Modes
  behindFrom : Option Nat := none
deriving DecidableEq, Repr

/-- What reading has come to: the lexemes left and the groups met. -/
structure Ledger where
  rest : List Lexeme
  /-- The widths of the groups by number, `none` for a group that is still open. -/
  widths : List (Option Node.Width) := []
  /-- The named groups, in the order of their numbers. -/
  names : List (Text × Nat) := []
  /-- The group numbers that conditions refer to. -/
  conditions : List Nat := []
  /-- Whether some look-behind varies in width. -/
  varies : Bool := false
deriving DecidableEq, Repr

namespace Ledger

/-- The number of a group, once it is closed. -/
def isClosed (ledger : Ledger) (group : Nat) : Bool :=
  0 < group && ((ledger.widths[group - 1]?).bind id).isSome

/-- The width of a closed group. -/
def groupWidth (ledger : Ledger) (group : Nat) : Node.Width :=
  ((ledger.widths[group - 1]?).bind id).getD ⟨0, 0⟩

/-- Opens the next group, under a name if it has one. -/
def openGroup (ledger : Ledger) (name : Option Text) : Except Flaw (Nat × Ledger) :=
  let group := ledger.widths.length + 1
  let opened := { ledger with widths := ledger.widths ++ [none] }
  match name with
  | none => .ok (group, opened)
  | some name =>
    if ledger.names.any fun entry => entry.1 = name then malformed .nameTaken
    else .ok (group, { opened with names := ledger.names ++ [(name, group)] })

/-- Closes a group whose body has been read. -/
def closeGroup (ledger : Ledger) (group : Nat) (body : Node) : Ledger :=
  { ledger with widths := ledger.widths.set (group - 1) (some (body.width ledger.groupWidth)) }

/-- The lexemes after a closing parenthesis, which has to come next. -/
def close (ledger : Ledger) : Except Flaw Ledger :=
  match ledger.rest with
  | .plain ')' :: rest => .ok { ledger with rest }
  | _ => malformed .openGroup

end Ledger

/-- Refuses a reference that a look-behind around it cannot follow. -/
def checkBehind (scope : Scope) (ledger : Ledger) (group : Nat) : Except Flaw Unit :=
  match scope.behindFrom with
  | none => .ok ()
  | some first =>
    if !ledger.isClosed group then malformed .groupStillOpen
    else if first ≤ group then malformed .groupOfSameLookbehind
    else .ok ()

/-- A reference to the text of a group. -/
def recallNode (scope : Scope) (ledger : Ledger) (group : Nat) : Except Flaw Node :=
  if !ledger.isClosed group then malformed .groupStillOpen
  else do
    checkBehind scope ledger group
    return .recall group scope.modes.ignoreCase scope.modes.wide

/-! ## Items -/

/-- What a quantifier may make of the item before it. -/
inductive Form where
  | repeatable
  | anchored
  | repeated
deriving DecidableEq, Repr

/-- A member of a row, with what a quantifier may make of it. -/
structure Item where
  node : Node
  form : Form := .repeatable
deriving DecidableEq, Repr

/-- The item that consumes one character of a set. -/
def setItem (modes : Modes) (items : List SetItem) (outside : Bool) : Item :=
  ⟨.one ⟨items, outside, modes.ignoreCase, modes.wide⟩, .repeatable⟩

/-- The item of a condition on the place. -/
def anchorItem (anchor : Anchor) : Item :=
  ⟨.anchor anchor, .anchored⟩

/-- The item of a plain character that opens nothing. -/
def plainItem (modes : Modes) : Char → Item
  | '.' => ⟨.one ⟨if modes.dotAll then [] else [.one 10], true, false, false⟩, .repeatable⟩
  | '^' => anchorItem (if modes.multiline then .lineStart else .textStart)
  | '$' => anchorItem (if modes.multiline then .lineEnd else .lastLineEnd)
  | char => setItem modes [.one char.toNat] false

/-- The condition that an escaped letter stands for. -/
def anchor? (modes : Modes) : Char → Option Anchor
  | 'A' => some .textStart
  | 'Z' => some .textEnd
  | 'b' => some (.boundary modes.wide)
  | 'B' => some (.interior modes.wide)
  | _ => none

/-- An escaped digit: an octal code of three digits, or the number of a group. -/
def readDigitEscape (scope : Scope) (ledger : Ledger) (char : Char) (rest : List Lexeme) :
    Except Flaw (Item × List Lexeme) :=
  let (more, left) := takePlain Char.isDigit 1 rest
  let (last, after) := takePlain isOctal 1 left
  if isOctal char && more.any isOctal && !last.isEmpty then
    let code := Text.toNat 8 (char :: more ++ last)
    if 255 < code then malformed .badEscape else .ok (setItem scope.modes [.one code] false, after)
  else
    let group := Text.toNat 10 (char :: more)
    if ledger.widths.length < group then malformed .noSuchGroup
    else do return (⟨← recallNode scope ledger group, .repeatable⟩, left)

/-- An escaped character outside of a set. -/
def readEscape (scope : Scope) (ledger : Ledger) (char : Char) (rest : List Lexeme) :
    Except Flaw (Item × List Lexeme) :=
  let code (result : Nat × List Lexeme) := (setItem scope.modes [.one result.1] false, result.2)
  match anchor? scope.modes char, kindItem? char, controlCode? char, hexDigits? char with
  | some anchor, _, _, _ => .ok (anchorItem anchor, rest)
  | none, some item, _, _ => .ok (setItem scope.modes [item] false, rest)
  | none, none, some value, _ => .ok (code (value, rest))
  | none, none, none, some count => (readHex count rest).map code
  | none, none, none, none =>
    if char = '0' then
      let (digits, left) := takePlain isOctal 2 rest
      .ok (code (Text.toNat 8 digits, left))
    else if char.isDigit then readDigitEscape scope ledger char rest
    else (readItself char rest).map code

/-- Wraps the item before a quantifier into a loop. -/
def loopItem (least : Nat) (most : Option Nat) (rest : List Lexeme) :
    List Item → Except Flaw (List Item × List Lexeme)
  | ⟨node, .repeatable⟩ :: items =>
    let (appetite, left) := readAppetite rest
    .ok (⟨.loop appetite least most node, .repeated⟩ :: items, left)
  | ⟨_, .repeated⟩ :: _ => malformed .repeatedTwice
  | _ => malformed .nothingToRepeat

/-! ## Group headers -/

/-- A name up to a closing character, which no backslash may precede. -/
def readName (closing : Char) : Text → List Lexeme → Except Flaw (Text × List Lexeme)
  | name, .plain char :: rest =>
    if char = closing then
      if name.isEmpty then malformed .openName else .ok (name.reverse, rest)
    else readName closing (char :: name) rest
  | name, .escape char :: rest => readName closing (char :: '\\' :: name) rest
  | _, _ => malformed .openName

/-- Whether a character may stand around the number of a group: the separators of information are
blanks elsewhere. -/
def isNumberBlank (char : Char) : Bool :=
  Text.isBlank char && !('\x1c' ≤ char && char ≤ '\x1f')

/-- The number of a group as a condition may write it: spaced, signed, with single underscores
between digits of any script. -/
def groupNumber? (name : Text) : Option Nat :=
  let digits (text : Text) : Option Nat :=
    let pieces := Text.splitOn '_' text
    if Fault.numeralLimit < (text.filter (· != '_')).length || pieces.any List.isEmpty then none
    else (pieces.flatten.mapM Text.digitValue?).map
      fun values => values.foldl (fun number value => number * 10 + value) 0
  match ((name.dropWhile isNumberBlank).reverse.dropWhile isNumberBlank).reverse with
  | '+' :: text => digits text
  | '-' :: text => (digits text).filter (· = 0)
  | text => digits text

/-- The most groups that a condition may count. -/
def groupLimit : Nat := 1073741823

/-- The group that a condition names, and whether it does so by number. -/
def conditionGroup (ledger : Ledger) (name : Text) : Except Flaw (Nat × Bool) :=
  if Text.isIdentifier name then
    match ledger.names.find? fun entry => entry.1 = name with
    | some entry => .ok (entry.2, false)
    | none => malformed .unknownName
  else
    match groupNumber? name with
    | none => malformed .badName
    | some group =>
      if group = 0 then malformed .badGroupNumber
      else if groupLimit ≤ group then malformed .noSuchGroup
      else .ok (group, true)

/-- What a parenthesis opens. -/
inductive Header where
  /-- A capturing group, perhaps with a name. -/
  | capture (name : Option Text)
  /-- A group that captures nothing, with the modes of its body. -/
  | plain (modes : Modes)
  | atomic
  | ahead (negated : Bool)
  | behind (negated : Bool)
  /-- A choice by whether a group has matched. -/
  | condition (name : Text)
  /-- A reference by name, which is complete. -/
  | recall (name : Text)
  /-- A comment, which is complete. -/
  | comment
deriving DecidableEq, Repr

/-- The header of a group, after its opening parenthesis. -/
def readHeader (modes : Modes) (rest : List Lexeme) : Except Flaw (Header × List Lexeme) :=
  match rest with
  | .plain '?' :: .plain 'P' :: .plain '<' :: rest => do
    let (name, left) ← readName '>' [] rest
    if Text.isIdentifier name then return (.capture (some name), left) else malformed .badName
  | .plain '?' :: .plain 'P' :: .plain '=' :: rest => do
    let (name, left) ← readName ')' [] rest
    if Text.isIdentifier name then return (.recall name, left) else malformed .badName
  | .plain '?' :: .plain ':' :: rest => .ok (.plain modes, rest)
  | .plain '?' :: .plain '#' :: rest => (skipComment rest).map fun left => (.comment, left)
  | .plain '?' :: .plain '=' :: rest => .ok (.ahead false, rest)
  | .plain '?' :: .plain '!' :: rest => .ok (.ahead true, rest)
  | .plain '?' :: .plain '<' :: .plain '=' :: rest => .ok (.behind false, rest)
  | .plain '?' :: .plain '<' :: .plain '!' :: rest => .ok (.behind true, rest)
  | .plain '?' :: .plain '>' :: rest => .ok (.atomic, rest)
  | .plain '?' :: .plain '(' :: rest => do
    let (name, left) ← readName ')' [] rest
    return (.condition name, left)
  | .plain '?' :: .plain char :: rest =>
    if (Flag.ofChar? char).isNone && char != '-' then malformed .unknownExtension
    else do
      match ← readFlags [] (.plain char :: rest) with
      | (.scoped on off, left) => return (.plain (modes.scoped on off), left)
      | (.global _, _) => malformed .lateGlobalFlags
  | .plain '?' :: _ => malformed .unknownExtension
  | _ => .ok (.capture none, rest)

/-! ## Rows, alternatives and groups -/

mutual

/-- Alternatives, up to the end of the group or text around them. -/
def readAlternatives (fuel : Nat) (scope : Scope) (ledger : Ledger) :
    Except Flaw (Node × Ledger) :=
  match fuel with
  | 0 => malformed .unfinished
  | fuel + 1 => do
    let (first, ledger) ← readRow fuel scope [] ledger
    match ledger.rest with
    | .plain '|' :: rest =>
      let (others, ledger) ← readAlternatives fuel scope { ledger with rest }
      return (.alt first others, ledger)
    | _ => return (first, ledger)

/-- A row of items, up to a bar, a closing parenthesis or the end; `items` are those read so far,
the last first. -/
def readRow (fuel : Nat) (scope : Scope) (items : List Item) (ledger : Ledger) :
    Except Flaw (Node × Ledger) :=
  match fuel with
  | 0 => malformed .unfinished
  | fuel + 1 =>
    let done : Except Flaw (Node × Ledger) :=
      .ok (.ofList (items.reverse.map Item.node), ledger)
    match ledger.rest with
    | [] => done
    | .dangling :: _ => malformed .danglingBackslash
    | .escape char :: rest => do
      let (item, left) ← readEscape scope ledger char rest
      readRow fuel scope (item :: items) { ledger with rest := left }
    | .named _ char :: rest =>
      readRow fuel scope (setItem scope.modes [.one char.toNat] false :: items) { ledger with rest }
    | .plain char :: rest =>
      if char = '|' || char = ')' then done
      else if scope.modes.verbose && isSpacing char then
        readRow fuel scope items { ledger with rest }
      else if scope.modes.verbose && char = '#' then
        readRow fuel scope items { ledger with rest := skipLine rest }
      else if char = '(' then do
        let (item?, ledger) ← readGroup fuel scope { ledger with rest }
        readRow fuel scope (item?.toList ++ items) ledger
      else if char = '[' then do
        let (members, outside, left) ← readSet rest
        readRow fuel scope (setItem scope.modes members outside :: items)
          { ledger with rest := left }
      else if char = '*' || char = '+' || char = '?' then do
        let (looped, left) ←
          loopItem (if char = '+' then 1 else 0) (if char = '?' then some 1 else none) rest items
        readRow fuel scope looped { ledger with rest := left }
      else if char = '{' then
        match readBounds? rest with
        | none => readRow fuel scope (plainItem scope.modes char :: items) { ledger with rest }
        | some (least, most, after) => do
          let (low, high) ← readRounds least most after
          let (looped, left) ← loopItem low high after items
          readRow fuel scope looped { ledger with rest := left }
      else readRow fuel scope (plainItem scope.modes char :: items) { ledger with rest }

/-- A group, after its opening parenthesis. -/
def readGroup (fuel : Nat) (scope : Scope) (ledger : Ledger) :
    Except Flaw (Option Item × Ledger) :=
  match fuel with
  | 0 => malformed .unfinished
  | fuel + 1 => do
    let (header, rest) ← readHeader scope.modes ledger.rest
    let ledger := { ledger with rest }
    match header with
    | .comment => return (none, ledger)
    | .recall name =>
      match ledger.names.find? fun entry => entry.1 = name with
      | none => malformed .unknownName
      | some entry => return (some ⟨← recallNode scope ledger entry.2, .repeatable⟩, ledger)
    | .capture name =>
      let (group, ledger) ← ledger.openGroup name
      let (body, ledger) ← readAlternatives fuel scope ledger
      let ledger ← ledger.close
      return (some ⟨.capture group body, .repeatable⟩, ledger.closeGroup group body)
    | .plain modes =>
      let (body, ledger) ← readAlternatives fuel { scope with modes } ledger
      return (some ⟨body, .repeatable⟩, ← ledger.close)
    | .atomic =>
      let (body, ledger) ← readAlternatives fuel scope ledger
      return (some ⟨.atomic body, .repeatable⟩, ← ledger.close)
    | .ahead negated =>
      let (body, ledger) ← readAlternatives fuel scope ledger
      return (some ⟨.ahead negated body, .repeatable⟩, ← ledger.close)
    | .behind negated =>
      let within := scope.behindFrom.getD (ledger.widths.length + 1)
      let (body, ledger) ← readAlternatives fuel { scope with behindFrom := some within } ledger
      let ledger ← ledger.close
      let width := body.width ledger.groupWidth
      return (some ⟨.behind width.least negated body, .repeatable⟩,
        { ledger with varies := ledger.varies || width.varies })
    | .condition name =>
      let (group, byNumber) ← conditionGroup ledger name
      let ledger :=
        if byNumber then { ledger with conditions := group :: ledger.conditions } else ledger
      checkBehind scope ledger group
      let (present, ledger) ← readRow fuel scope [] ledger
      match ledger.rest with
      | .plain '|' :: rest =>
        let (absent, ledger) ← readRow fuel scope [] { ledger with rest }
        match ledger.rest with
        | .plain '|' :: _ => malformed .tooManyBranches
        | _ => return (some ⟨.choose group present absent, .repeatable⟩, ← ledger.close)
      | _ => return (some ⟨.choose group present .empty, .repeatable⟩, ← ledger.close)

end

/-- The expression of lexemes. A clash of alphabets is noticed once they have been read, before a
stray parenthesis, a condition on a group that there is none of, a look-behind whose width varies, or
a loop where none is allowed. -/
def readLexemes (lexemes : List Lexeme) : Except Flaw Expression := do
  let (modes, clash, rest) ← readOpening (lexemes.length + 1) {} false lexemes
  let (node, ledger) ← readAlternatives (3 * rest.length + 4) ⟨modes, none⟩ { rest }
  let groupCount := ledger.widths.length
  if clash then .error (.fault .modesClash)
  else if !ledger.rest.isEmpty then malformed .strayClosing
  else if ledger.conditions.any fun group => groupCount < group then malformed .noSuchGroup
  else if ledger.varies then malformed .varyingLookbehind
  else if modes.loopless && node.hasLoop then malformed .forbiddenLoop
  else return ⟨node, groupCount, ledger.names⟩

/-- The expression of a text. -/
def read [CharacterNames] (text : Text) : Except Flaw Expression :=
  readLexemes (resolveNames (lexemes text))

/-- A text that asks for no name is read alike whatever names are known. -/
theorem read_of_unnamed [CharacterNames] {text : Text} (unnamed : .escape 'N' ∉ lexemes text) :
    read text = readLexemes (lexemes text) := by
  rw [read, resolveNames_of_unnamed unnamed]

end GrokEvents.Expr
