/-
**Expansion.**

A pass puts the fragment of its name in the place of every token of a text, as a named group where
the token is tagged. Fragments may hold tokens again, so passes are repeated while something looks
like a token, at most so many times, and until a pass changes nothing.

* `Expansion.pass`: what one pass makes of a text.
* `expand`: the passes of a source.
-/

import GrokEvents.Grok.Registry
import GrokEvents.Notice

namespace GrokEvents.Grok

/-! ## One pass -/

/-- A fragment inside a named group. -/
def namedGroup (field fragment : Text) : Text :=
  '(' :: '?' :: 'P' :: '<' :: field ++ '>' :: fragment ++ [')']

namespace Piece

/-- What a pass puts in the place of a piece. -/
def replacement (registry : Registry) : Piece → Text
  | .literal char => [char]
  | .token reference =>
    match reference.tag with
    | none => registry.fragment reference.name
    | some tag => namedGroup tag.field (registry.fragment reference.name)

/-- The field that a piece declares. -/
def field? : Piece → Option Text
  | .literal _ => none
  | .token reference => reference.tag.map Tag.field

/-- The type that a piece gives to its field. -/
def type? : Piece → Option (Text × Text)
  | .literal _ => none
  | .token reference => reference.tag.bind fun tag => tag.type.map fun type => (tag.field, type)

/-- The notice that a piece leaves when its name is unknown. -/
def notice? (registry : Registry) : Piece → Option Notice
  | .literal _ => none
  | .token reference =>
    if (registry.get? reference.name).isSome then none else some .unknownPattern

end Piece

/-- The text after a pass. -/
def substitute (registry : Registry) (text : Text) : Text :=
  (pieces text).flatMap (Piece.replacement registry)

/-! ## Repeated passes -/

/-- What expanding has come to. -/
structure Expansion where
  text : Text
  /-- The fields declared by tagged tokens, in the order of their substitution. -/
  fields : List Text := []
  types : Entries Text Text := []
deriving DecidableEq, Repr

namespace Expansion

/-- Whether nothing looks like a token any more. -/
def isResolved (expansion : Expansion) : Bool :=
  !isPending expansion.text

/-- An expansion after one more pass. -/
def pass (registry : Registry) (expansion : Expansion) : Expansion :=
  let found := pieces expansion.text
  ⟨found.flatMap (Piece.replacement registry),
    expansion.fields ++ found.filterMap Piece.field?,
    Entries.extend expansion.types (found.filterMap Piece.type?)⟩

end Expansion

/-- Up to `budget` passes. A pass that leaves the text as it is ends the expansion. -/
def expandFrom (registry : Registry) : (budget : Nat) → Expansion → Logged Expansion
  | 0, expansion => pure expansion
  | budget + 1, expansion =>
    if isPending expansion.text then
      let next := expansion.pass registry
      let notices := (pieces expansion.text).filterMap (Piece.notice? registry)
      if next.text = expansion.text then ⟨next, notices⟩
      else
        let last := expandFrom registry budget next
        ⟨last.value, notices ++ last.notices⟩
    else pure expansion

/-- The expansion of a source within a budget of passes. -/
def expand (registry : Registry) (budget : Nat) (source : Text) : Logged Expansion := do
  let expansion ← expandFrom registry budget ⟨source, [], []⟩
  if !expansion.isResolved then Logged.note .unresolvedExpansion
  return expansion

end GrokEvents.Grok
