/-
**Tokens of a document.**

Scalars, indicators and the starts and ends of block collections, which indentation marks. That
something is the key of a mapping shows only at the colon after it: every token that may be a key
is remembered, and the colon puts a mark before it.
-/

import GrokEvents.Yaml.Scalar
import GrokEvents.Text.Utf8
import GrokEvents.Entries

namespace GrokEvents.Yaml

/-- A token. -/
inductive Token where
  /-- A version directive, by its major number. -/
  | version (major : Nat)
  /-- A directive that gives a tag handle its meaning. -/
  | tagHandle (handle meaning : Text)
  /-- A directive without meaning. -/
  | reserved
  | documentStart
  | documentEnd
  | blockSequenceStart
  | blockMappingStart
  | blockEnd
  | flowSequenceStart
  | flowSequenceEnd
  | flowMappingStart
  | flowMappingEnd
  | blockEntry
  | flowEntry
  | key
  | value
  | alias (name : Text)
  | anchor (name : Text)
  /-- A tag, by its handle and suffix; a verbatim tag has no handle. -/
  | tag (handle : Option Text) (suffix : Text)
  | scalar (text : Text) (plain : Bool)
  /-- The place where the document cannot be read on. -/
  | broken (fault : Fault)
deriving DecidableEq, Repr

/-! ## Names and tags -/

/-- A name after an indicator, up to a character that may follow it. -/
def readName (place : Place) : Except Fault (Text × Place) :=
  let (name, place) := place.next.run isNameChar
  let follows := place.peek?.all fun char =>
    isGap char || isBreak char || "?:,]\x7d%@`".toList.contains char
  if name.isEmpty || !follows then .error .malformed else .ok (name, place)

/-- The bytes of a run of percent escapes. -/
def percentBytes : Nat → Place → Except Fault (List Nat × Place)
  | 0, place => .ok ([], place)
  | fuel + 1, place =>
    match place.rest with
    | '%' :: high :: low :: _ =>
      if Text.isHexDigit high && Text.isHexDigit low then do
        let (bytes, place) ← percentBytes fuel (place.advance 3)
        return (Text.toNat 16 [high, low] :: bytes, place)
      else .error .malformed
    | '%' :: _ => .error .malformed
    | _ => .ok ([], place)

/-- The characters of a tag. -/
def tagText : Nat → Place → Except Fault (Text × Place)
  | 0, place => .ok ([], place)
  | fuel + 1, place =>
    match place.peek? with
    | some '%' => do
      let (bytes, place) ← percentBytes (fuel + 1) place
      match Text.decodeUtf8 bytes with
      | .error _ => .error .malformed
      | .ok chars =>
        let (more, place) ← tagText fuel place
        return (chars ++ more, place)
    | some char =>
      if isTagChar char then do
        let (more, place) ← tagText fuel place.next
        return (char :: more, place)
      else .ok ([], place)
    | none => .ok ([], place)

/-- The characters of a tag, of which there is at least one. -/
def readTagText (place : Place) : Except Fault (Text × Place) := do
  let (text, after) ← tagText (place.rest.length + 1) place
  if after.index = place.index then .error .malformed else .ok (text, after)

/-- A tag handle: an exclamation mark, or a name between two of them. -/
def readHandle (place : Place) : Except Fault (Text × Place) :=
  if place.peek? != some '!' then .error .malformed
  else if (place.ahead? 1) == some ' ' then .ok (['!'], place.next)
  else
    let (name, after) := place.next.run isNameChar
    if after.peek? == some '!' then .ok ('!' :: name ++ ['!'], after.next)
    else .error .malformed

/-- A tag, from its exclamation mark on. -/
def readTag (place : Place) : Except Fault (Token × Place) := do
  let (token, after) ←
    match place.ahead? 1 with
    | some '<' => do
      let (suffix, after) ← readTagText (place.advance 2)
      if after.peek? != some '>' then .error .malformed
      else pure (Token.tag none suffix, after.next)
    | _ =>
      if place.endsAt 1 then pure (Token.tag none ['!'], place.next)
      else
        let word := (place.rest.drop 1).takeWhile fun char => char != ' ' && !isBreak char
        if word.contains '!' then do
          let (handle, after) ← readHandle place
          let (suffix, after) ← readTagText after
          pure (Token.tag (some handle) suffix, after)
        else do
          let (suffix, after) ← readTagText place.next
          pure (Token.tag (some ['!']) suffix, after)
  if after.atSpaceOrEnd then return (token, after) else .error .malformed

/-! ## Directives -/

/-- A number in a version directive. -/
def readVersionNumber (place : Place) : Except Fault (Nat × Place) :=
  let (digits, after) := place.run Char.isDigit
  if digits.isEmpty then .error .malformed else .ok (Text.toNat 10 digits, after)

/-- A directive, from its percent sign on, with its line. -/
def readDirective (place : Place) : Except Fault (Token × Place) := do
  let (name, place) := place.next.run isNameChar
  if name.isEmpty || !place.atSpaceOrEnd then .error .malformed
  else if name = "YAML".toList then
    let (major, place) ← readVersionNumber (place.skip (· == ' '))
    if place.peek? != some '.' then .error .malformed
    else
      let (_, place) ← readVersionNumber place.next
      if !place.atSpaceOrEnd then .error .malformed
      else return (.version major, ← place.endLine)
  else if name = "TAG".toList then
    let (handle, place) ← readHandle (place.skip (· == ' '))
    if place.peek? != some ' ' then .error .malformed
    else
      let (meaning, place) ← readTagText (place.skip (· == ' '))
      if !place.atSpaceOrEnd then .error .malformed
      else return (.tagHandle handle meaning, ← place.endLine)
  else return (.reserved, ← (place.skip fun char => !isBreak char).endLine)

/-! ## The state of reading -/

/-- A token that may turn out to be a key: how many tokens stand before it and where it starts. A
key is required where a block mapping goes on. -/
structure PossibleKey where
  number : Nat
  required : Bool
  index : Nat
  line : Nat
  column : Nat
deriving DecidableEq, Repr

/-- What reading tokens has come to. -/
structure Lexer where
  place : Place
  /-- The tokens read so far, the last first. -/
  tokens : List Token := []
  flowLevel : Nat := 0
  indent : Int := -1
  outer : List Int := []
  keyAllowed : Bool := true
  /-- The token of each flow level that may be a key. -/
  keys : List (Nat × PossibleKey) := []
deriving DecidableEq, Repr

/-- Puts a token before the last `after` of a list that holds the last first. -/
def insertAt (after : Nat) (token : Token) (tokens : List Token) : List Token :=
  tokens.take after ++ token :: tokens.drop after

namespace Lexer

/-- A lexer with a further token. -/
def push (lexer : Lexer) (token : Token) : Lexer :=
  { lexer with tokens := token :: lexer.tokens }

/-- A lexer with a token of so many characters. -/
def take (lexer : Lexer) (count : Nat) (token : Token) : Lexer :=
  { lexer.push token with place := lexer.place.advance count }

/-- Whether a possible key can no longer be one: its line has ended or it has grown too long. -/
def isStale (lexer : Lexer) (key : PossibleKey) : Bool :=
  key.line != lexer.place.line || 1024 < lexer.place.index - key.index

/-- Forgets the possible keys that can no longer be keys. -/
def dropStale (lexer : Lexer) : Except Fault Lexer :=
  if lexer.keys.any fun entry => lexer.isStale entry.2 && entry.2.required then .error .malformed
  else .ok { lexer with keys := lexer.keys.filter fun entry => !lexer.isStale entry.2 }

/-- Forgets the possible key of the present flow level. -/
def dropKey (lexer : Lexer) : Except Fault Lexer :=
  match Entries.get? lexer.flowLevel lexer.keys with
  | some key =>
    if key.required then .error .malformed
    else .ok { lexer with keys := Entries.erase lexer.flowLevel lexer.keys }
  | none => .ok lexer

/-- Remembers that the next token may be a key. -/
def saveKey (lexer : Lexer) : Except Fault Lexer :=
  if lexer.keyAllowed then do
    let required := lexer.flowLevel = 0 && lexer.indent = (lexer.place.column : Int)
    let lexer ← lexer.dropKey
    let key : PossibleKey :=
      ⟨lexer.tokens.length, required, lexer.place.index, lexer.place.line, lexer.place.column⟩
    return { lexer with keys := (lexer.flowLevel, key) :: lexer.keys }
  else .ok lexer

/-- Ends the block collections that are indented more than a column. -/
def unwind (column : Int) : Nat → Lexer → Lexer
  | 0, lexer => lexer
  | fuel + 1, lexer =>
    if lexer.flowLevel = 0 && column < lexer.indent then
      match lexer.outer with
      | [] => lexer
      | outer :: rest =>
        unwind column fuel { lexer.push .blockEnd with indent := outer, outer := rest }
    else lexer

/-- Ends all block collections that are indented more than a column. -/
def unwindTo (lexer : Lexer) (column : Int) : Lexer :=
  unwind column (lexer.outer.length + 1) lexer

/-- Starts a block collection at a column, if it is indented more than the present one. `after`
tokens belong to it already. -/
def startBlock (lexer : Lexer) (column after : Nat) (token : Token) : Lexer :=
  if lexer.flowLevel = 0 && lexer.indent < (column : Int) then
    { lexer with
      tokens := insertAt after token lexer.tokens
      outer := lexer.indent :: lexer.outer
      indent := column }
  else lexer

/-! ## Reading one token -/

/-- Passes over spaces, comments and line breaks. A new line outside of flow collections may start
with a key. -/
def skipToToken : Nat → Lexer → Lexer
  | 0, lexer => lexer
  | fuel + 1, lexer =>
    let place := lexer.place.skipComment
    match place.lineBreak? with
    | some (_, place) =>
      skipToToken fuel
        { lexer with place, keyAllowed := lexer.keyAllowed || lexer.flowLevel = 0 }
    | none => { lexer with place }

/-- A document mark or directive: it ends all block collections. -/
def startOver (lexer : Lexer) : Except Fault Lexer := do
  let lexer ← (lexer.unwindTo (-1)).dropKey
  return { lexer with keyAllowed := false }

/-- The start of a flow collection, which may be a key. -/
def startFlow (lexer : Lexer) (token : Token) : Except Fault Lexer := do
  let lexer ← lexer.saveKey
  return { lexer.take 1 token with flowLevel := lexer.flowLevel + 1, keyAllowed := true }

/-- The end of a flow collection. -/
def endFlow (lexer : Lexer) (token : Token) : Except Fault Lexer := do
  let lexer ← lexer.dropKey
  return { lexer.take 1 token with flowLevel := lexer.flowLevel - 1, keyAllowed := false }

/-- A comma in a flow collection. -/
def flowEntry (lexer : Lexer) : Except Fault Lexer := do
  let lexer ← lexer.dropKey
  return { lexer.take 1 .flowEntry with keyAllowed := true }

/-- The indicator of an item of a block sequence. -/
def blockEntry (lexer : Lexer) : Except Fault Lexer := do
  if lexer.flowLevel = 0 && !lexer.keyAllowed then .error .malformed
  else
    let lexer ← (lexer.startBlock lexer.place.column 0 .blockSequenceStart).dropKey
    return { lexer.take 1 .blockEntry with keyAllowed := true }

/-- The indicator of a key. -/
def keyMark (lexer : Lexer) : Except Fault Lexer := do
  if lexer.flowLevel = 0 && !lexer.keyAllowed then .error .malformed
  else
    let lexer ← (lexer.startBlock lexer.place.column 0 .blockMappingStart).dropKey
    return { lexer.take 1 .key with keyAllowed := lexer.flowLevel = 0 }

/-- The indicator of a value. If a possible key stands before it, that is the key. -/
def valueMark (lexer : Lexer) : Except Fault Lexer :=
  match Entries.get? lexer.flowLevel lexer.keys with
  | some key =>
    let after := lexer.tokens.length - key.number
    let marked :=
      { lexer with
        tokens := insertAt after .key lexer.tokens
        keys := Entries.erase lexer.flowLevel lexer.keys }
    let started := marked.startBlock key.column (after + 1) .blockMappingStart
    .ok { started.take 1 .value with keyAllowed := false }
  | none => do
    if lexer.flowLevel = 0 && !lexer.keyAllowed then .error .malformed
    else
      let lexer ← (lexer.startBlock lexer.place.column 0 .blockMappingStart).dropKey
      return { lexer.take 1 .value with keyAllowed := lexer.flowLevel = 0 }

/-- A token that may be a key, and after which no key may start. -/
def keyToken (lexer : Lexer) (read : Place → Except Fault (Token × Place)) :
    Except Fault Lexer := do
  let lexer ← lexer.saveKey
  let (token, place) ← read lexer.place
  return { lexer.push token with place, keyAllowed := false }

/-- A block scalar, after which a key may start. -/
def block (lexer : Lexer) (folded : Bool) : Except Fault Lexer := do
  let lexer ← lexer.dropKey
  let (text, place) ← blockScalar folded lexer.indent lexer.place
  return { lexer.push (.scalar text false) with place, keyAllowed := true }

/-- A plain scalar. Where its last line has ended, a key may start. -/
def plain (lexer : Lexer) : Except Fault Lexer := do
  let lexer ← lexer.saveKey
  let (text, ended, place) := plainScalar (lexer.flowLevel ≠ 0) lexer.indent lexer.place
  return { lexer.push (.scalar text true) with place, keyAllowed := ended }

/-- Whether a plain scalar may start with a character: with no indicator, or with one of three when
no gap follows, of which two stand outside of flow collections only. -/
def startsPlain (lexer : Lexer) (char : Char) : Bool :=
  !(isGap char || isBreak char || "-?:,[]\x7b\x7d#&*!|>'\"%@`".toList.contains char) ||
    (!lexer.place.endsAt 1 &&
      (char == '-' || (lexer.flowLevel = 0 && (char == '?' || char == ':'))))

/-- Reads the token that starts with a character. -/
def readToken (lexer : Lexer) (char : Char) : Except Fault Lexer :=
  let place := lexer.place
  let inFlow := lexer.flowLevel ≠ 0
  if char == '%' && place.column = 0 then do
    let lexer ← lexer.startOver
    let (token, place) ← readDirective lexer.place
    return { lexer.push token with place }
  else if place.column = 0 && place.atDocumentMark '-' then do
    return (← lexer.startOver).take 3 .documentStart
  else if place.column = 0 && place.atDocumentMark '.' then do
    return (← lexer.startOver).take 3 .documentEnd
  else if char == '[' then lexer.startFlow .flowSequenceStart
  else if char == '{' then lexer.startFlow .flowMappingStart
  else if char == ']' then lexer.endFlow .flowSequenceEnd
  else if char == '}' then lexer.endFlow .flowMappingEnd
  else if char == ',' then lexer.flowEntry
  else if char == '-' && place.endsAt 1 then lexer.blockEntry
  else if char == '?' && (inFlow || place.endsAt 1) then lexer.keyMark
  else if char == ':' && (inFlow || place.endsAt 1) then lexer.valueMark
  else if char == '*' then
    lexer.keyToken fun place => (readName place).map fun (name, after) => (.alias name, after)
  else if char == '&' then
    lexer.keyToken fun place => (readName place).map fun (name, after) => (.anchor name, after)
  else if char == '!' then lexer.keyToken readTag
  else if char == '|' && !inFlow then lexer.block false
  else if char == '>' && !inFlow then lexer.block true
  else if char == '\x27' then
    lexer.keyToken fun place =>
      (quotedScalar false place).map fun (text, after) => (.scalar text false, after)
  else if char == '"' then
    lexer.keyToken fun place =>
      (quotedScalar true place).map fun (text, after) => (.scalar text false, after)
  else if lexer.startsPlain char then lexer.plain
  else .error .malformed

/-- Reads the next token, or ends the document where nothing is left. -/
def step (lexer : Lexer) : Except Fault (Lexer × Bool) := do
  let lexer ← (skipToToken (lexer.place.rest.length + 1) lexer).dropStale
  let lexer := lexer.unwindTo lexer.place.column
  match lexer.place.peek? with
  | none => return (← lexer.startOver, true)
  | some char => return (← lexer.readToken char, false)

/-- Reads tokens to the end; a fault is the last token. -/
def readAll : Nat → Lexer → List Token
  | 0, lexer => lexer.tokens.reverse
  | fuel + 1, lexer =>
    match lexer.step with
    | .error fault => (Token.broken fault :: lexer.tokens).reverse
    | .ok (lexer, true) => lexer.tokens.reverse
    | .ok (lexer, false) => readAll fuel lexer

end Lexer

/-- The tokens of a document. A byte order mark may come first. -/
def tokens (document : Text) : List Token :=
  let start : Place := ⟨document, 0, 0, 0⟩
  let place := if document.head? = some '\ufeff' then start.next else start
  Lexer.readAll (document.length + 2) { place }

end GrokEvents.Yaml
