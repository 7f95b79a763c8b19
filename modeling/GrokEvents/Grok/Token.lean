/-
**Grok tokens.**

A token `%{NAME}`, `%{NAME:field}` or `%{NAME:field:type}` refers to a pattern by name. A text
falls apart into tokens and the characters between them in one way, read from the left.

* `Token.atStart?`: the token at the start of a text.
* `pieces`: the tokens of a text and the characters between them.
-/

import GrokEvents.Text.Identifier

namespace GrokEvents.Grok

open Text

/-! ## Tokens -/

/-- The field that a token's match is kept under, perhaps with the name of a type. -/
structure Tag where
  field : Text
  type : Option Text := none
deriving DecidableEq, Repr

/-- A reference to a pattern. -/
structure Token where
  name : Text
  tag : Option Tag := none
deriving DecidableEq, Repr

/-- A capital ASCII letter, digit or underscore. -/
def isNameChar (char : Char) : Bool :=
  char.isUpper || char.isDigit || char == '_'

/-- Whether a text is the name of a pattern. -/
def isName (text : Text) : Bool :=
  !text.isEmpty && text.all isNameChar

namespace Tag

/-- A tag as it stands in a token. -/
def spell (tag : Tag) : Text :=
  ':' :: tag.field ++ (tag.type.map (':' :: ·)).getD []

end Tag

namespace Token

/-- A token as it stands in a text. -/
def spell (token : Token) : Text :=
  '%' :: '{' :: token.name ++ (token.tag.map Tag.spell).getD [] ++ ['}']

/-- The tag that a text starts with, up to the closing brace. -/
def tag? (text : Text) : Option (Option Tag) :=
  match text with
  | '}' :: _ => some none
  | ':' :: rest =>
    let (field, rest) := run isWordChar rest
    if field.isEmpty then none
    else
      match rest with
      | '}' :: _ => some (some ⟨field, none⟩)
      | ':' :: rest =>
        let (type, rest) := run Char.isAlpha rest
        if type.isEmpty then none
        else
          match rest with
          | '}' :: _ => some (some ⟨field, some type⟩)
          | _ => none
      | _ => none
  | _ => none

/-- The token that a text starts with. -/
def atStart? (text : Text) : Option Token :=
  match text with
  | '%' :: '{' :: rest =>
    let (name, rest) := run isNameChar rest
    if name.isEmpty then none else (tag? rest).map fun tag => ⟨name, tag⟩
  | _ => none

end Token

/-! ## Pieces -/

/-- A token of a text, or a character that belongs to none. -/
inductive Piece where
  | literal (char : Char)
  | token (reference : Token)
deriving DecidableEq, Repr

/-- The characters of a piece. -/
def Piece.spell : Piece → Text
  | .literal char => [char]
  | .token reference => reference.spell

/-- The pieces of a text, where `skip` more characters belong to the token read last. -/
def piecesFrom : (skip : Nat) → Text → List Piece
  | _, [] => []
  | skip + 1, _ :: rest => piecesFrom skip rest
  | 0, char :: rest =>
    match Token.atStart? (char :: rest) with
    | some token => .token token :: piecesFrom (token.spell.length - 1) rest
    | none => .literal char :: piecesFrom 0 rest

/-- The pieces of a text. -/
def pieces (text : Text) : List Piece :=
  piecesFrom 0 text

/-- Whether something in the text looks like the start of a token. -/
def isPending : Text → Bool
  | '%' :: '{' :: char :: rest => isNameChar char || isPending ('{' :: char :: rest)
  | _ :: rest => isPending rest
  | [] => false

end GrokEvents.Grok
