/-
**Nodes of a document.**

The tree that the tokens of a document denote: scalars, sequences and mappings with their tags. An
alias stands for the node under its anchor; inside that node itself it stands for a collection
that comes up again.

* `rootOf`: the root of a document, if it has one.
-/

import GrokEvents.Yaml.Token

namespace GrokEvents.Yaml

/-! ## Nodes -/

/-- The tag of a node, as far as it is written: none or the non-specific one, or a full name. -/
inductive NodeTag where
  /-- No tag; a scalar of this kind is plain. -/
  | absent
  /-- A lone exclamation mark. -/
  | nonSpecific
  | full (name : Text)
deriving DecidableEq, Repr

/-- A node. -/
inductive Node where
  | scalar (tag : NodeTag) (text : Text) (plain : Bool)
  | sequence (tag : NodeTag) (items : List Node)
  | mapping (tag : NodeTag) (entries : List (Node × Node))
  /-- A collection inside itself. -/
  | again (isMapping : Bool)
deriving Inhabited

namespace Node

/-- The scalar that stands where nothing is written. -/
def empty : Node :=
  .scalar .absent [] true

end Node

/-! ## The state of building -/

/-- What an anchor stands for: a node, or a collection that is still open. -/
inductive Anchored where
  | opened (isMapping : Bool)
  | complete (node : Node)

/-- The meanings of tag handles. -/
abbrev Handles := List (Text × Text)

/-- What building has come to. -/
structure Builder where
  tokens : List Token
  anchors : List (Text × Anchored) := []

namespace Builder

/-- A builder past some tokens. -/
def withTokens (builder : Builder) (tokens : List Token) : Builder :=
  { builder with tokens }

/-- The fault of a token that may not come next. -/
def unexpected {Value : Type} (builder : Builder) : Except Fault Value :=
  match builder.tokens with
  | .broken fault :: _ => .error fault
  | _ => .error .malformed

/-- Gives an anchor a meaning. -/
def setAnchor (builder : Builder) (anchor : Option Text) (meaning : Anchored) : Builder :=
  match anchor with
  | none => builder
  | some name => { builder with anchors := Entries.insert name meaning builder.anchors }

/-- Refuses an anchor that is in use already. -/
def checkAnchor (builder : Builder) : Option Text → Except Fault Unit
  | none => .ok ()
  | some name => if Entries.has name builder.anchors then .error .malformed else .ok ()

end Builder

/-! ## Properties -/

/-- The tag that a handle and a suffix denote. -/
def tagOf (handles : Handles) (handle : Option Text) (suffix : Text) : Except Fault NodeTag :=
  let full (name : Text) : NodeTag := if name = ['!'] then .nonSpecific else .full name
  match handle with
  | none => .ok (full suffix)
  | some handle =>
    match Entries.get? handle handles with
    | some meaning => .ok (full (meaning ++ suffix))
    | none => .error .malformed

/-- The anchor and the tag of a node, in either order, and the tokens after them. -/
def properties (handles : Handles) (tokens : List Token) :
    Except Fault (Option Text × NodeTag × List Token) := do
  match tokens with
  | .anchor name :: .tag handle suffix :: rest | .tag handle suffix :: .anchor name :: rest =>
    return (some name, ← tagOf handles handle suffix, rest)
  | .anchor name :: rest => return (some name, .absent, rest)
  | .tag handle suffix :: rest => return (none, ← tagOf handles handle suffix, rest)
  | _ => return (none, .absent, tokens)

/-! ## Building -/

/-- Where a node stands, which decides what it may be. -/
inductive Position where
  /-- Inside a flow collection. -/
  | flow
  /-- A document's root or an item of a block sequence. -/
  | block
  /-- A key or value of a block mapping, where a sequence needs no indentation. -/
  | blockEntry
deriving DecidableEq, Repr

mutual

/-- The node that comes next. -/
def buildNode (handles : Handles) (fuel : Nat) (position : Position) (builder : Builder) :
    Except Fault (Node × Builder) :=
  match fuel with
  | 0 => .error .malformed
  | fuel + 1 =>
    match builder.tokens with
    | .alias name :: rest =>
      match Entries.get? name builder.anchors with
      | some (.complete node) => .ok (node, builder.withTokens rest)
      | some (.opened isMapping) => .ok (.again isMapping, builder.withTokens rest)
      | none => .error .malformed
    | _ => do
      let (anchor, tag, tokens) ← properties handles builder.tokens
      let builder := builder.withTokens tokens
      let sequence (read : Builder → Except Fault (List Node × Builder)) (rest : List Token) :
          Except Fault (Node × Builder) := do
        builder.checkAnchor anchor
        let (items, builder) ← read ((builder.withTokens rest).setAnchor anchor (.opened false))
        let node := Node.sequence tag items
        return (node, builder.setAnchor anchor (.complete node))
      let mapping (read : Builder → Except Fault (List (Node × Node) × Builder))
          (rest : List Token) : Except Fault (Node × Builder) := do
        builder.checkAnchor anchor
        let (entries, builder) ← read ((builder.withTokens rest).setAnchor anchor (.opened true))
        let node := Node.mapping tag entries
        return (node, builder.setAnchor anchor (.complete node))
      let scalar (node : Node) (rest : List Token) : Except Fault (Node × Builder) := do
        builder.checkAnchor anchor
        return (node, (builder.withTokens rest).setAnchor anchor (.complete node))
      match tokens, position with
      | .blockEntry :: _, .blockEntry => sequence (buildIndentless handles fuel) tokens
      | .scalar text plain :: rest, _ => scalar (.scalar tag text plain) rest
      | .flowSequenceStart :: rest, _ => sequence (buildFlowSequence handles fuel true) rest
      | .flowMappingStart :: rest, _ => mapping (buildFlowMapping handles fuel true) rest
      | .blockSequenceStart :: rest, .block | .blockSequenceStart :: rest, .blockEntry =>
        sequence (buildBlockSequence handles fuel) rest
      | .blockMappingStart :: rest, .block | .blockMappingStart :: rest, .blockEntry =>
        mapping (buildBlockMapping handles fuel) rest
      | _, _ =>
        if anchor.isSome || tag ≠ .absent then scalar (.scalar tag [] (tag = .absent)) tokens
        else builder.unexpected

/-- The items of a block sequence, up to its end. -/
def buildBlockSequence (handles : Handles) (fuel : Nat) (builder : Builder) :
    Except Fault (List Node × Builder) :=
  match fuel with
  | 0 => .error .malformed
  | fuel + 1 =>
    match builder.tokens with
    | .blockEntry :: rest => do
      let builder := builder.withTokens rest
      let (item, builder) ←
        match rest with
        | .blockEntry :: _ | .blockEnd :: _ => pure (Node.empty, builder)
        | _ => buildNode handles fuel .block builder
      let (items, builder) ← buildBlockSequence handles fuel builder
      return (item :: items, builder)
    | .blockEnd :: rest => .ok ([], builder.withTokens rest)
    | _ => builder.unexpected

/-- The items of a sequence without indentation of its own. -/
def buildIndentless (handles : Handles) (fuel : Nat) (builder : Builder) :
    Except Fault (List Node × Builder) :=
  match fuel with
  | 0 => .error .malformed
  | fuel + 1 =>
    match builder.tokens with
    | .blockEntry :: rest => do
      let builder := builder.withTokens rest
      let (item, builder) ←
        match rest with
        | .blockEntry :: _ | .key :: _ | .value :: _ | .blockEnd :: _ =>
          pure (Node.empty, builder)
        | _ => buildNode handles fuel .block builder
      let (items, builder) ← buildIndentless handles fuel builder
      return (item :: items, builder)
    | _ => .ok ([], builder)

/-- The entries of a block mapping, up to its end. Either part of an entry may be missing. -/
def buildBlockMapping (handles : Handles) (fuel : Nat) (builder : Builder) :
    Except Fault (List (Node × Node) × Builder) :=
  match fuel with
  | 0 => .error .malformed
  | fuel + 1 => do
    let part (builder : Builder) (rest : List Token) : Except Fault (Node × Builder) :=
      match rest with
      | .key :: _ | .value :: _ | .blockEnd :: _ => .ok (Node.empty, builder.withTokens rest)
      | _ => buildNode handles fuel .blockEntry (builder.withTokens rest)
    match builder.tokens with
    | .blockEnd :: rest => return ([], builder.withTokens rest)
    | .key :: rest =>
      let (key, builder) ← part builder rest
      let (value, builder) ←
        match builder.tokens with
        | .value :: rest => part builder rest
        | _ => pure (Node.empty, builder)
      let (entries, builder) ← buildBlockMapping handles fuel builder
      return ((key, value) :: entries, builder)
    | _ => builder.unexpected

/-- The items of a flow sequence, up to its end. An item may be a mapping of one entry. -/
def buildFlowSequence (handles : Handles) (fuel : Nat) (first : Bool) (builder : Builder) :
    Except Fault (List Node × Builder) :=
  match fuel with
  | 0 => .error .malformed
  | fuel + 1 =>
    match builder.tokens with
    | .flowSequenceEnd :: rest => .ok ([], builder.withTokens rest)
    | tokens => do
      let tokens ←
        if first then pure tokens
        else
          match tokens with
          | .flowEntry :: rest => pure rest
          | _ => builder.unexpected
      let builder := builder.withTokens tokens
      match tokens with
      | .flowSequenceEnd :: rest => return ([], builder.withTokens rest)
      | .key :: rest =>
        let builder := builder.withTokens rest
        let (key, builder) ←
          match rest with
          | .value :: _ | .flowEntry :: _ | .flowSequenceEnd :: _ => pure (Node.empty, builder)
          | _ => buildNode handles fuel .flow builder
        let (value, builder) ←
          match builder.tokens with
          | .value :: rest =>
            let builder := builder.withTokens rest
            match rest with
            | .flowEntry :: _ | .flowSequenceEnd :: _ => pure (Node.empty, builder)
            | _ => buildNode handles fuel .flow builder
          | _ => pure (Node.empty, builder)
        let (items, builder) ← buildFlowSequence handles fuel false builder
        return (Node.mapping .absent [(key, value)] :: items, builder)
      | _ =>
        let (item, builder) ← buildNode handles fuel .flow builder
        let (items, builder) ← buildFlowSequence handles fuel false builder
        return (item :: items, builder)

/-- The entries of a flow mapping, up to its end. -/
def buildFlowMapping (handles : Handles) (fuel : Nat) (first : Bool) (builder : Builder) :
    Except Fault (List (Node × Node) × Builder) :=
  match fuel with
  | 0 => .error .malformed
  | fuel + 1 =>
    match builder.tokens with
    | .flowMappingEnd :: rest => .ok ([], builder.withTokens rest)
    | tokens => do
      let tokens ←
        if first then pure tokens
        else
          match tokens with
          | .flowEntry :: rest => pure rest
          | _ => builder.unexpected
      let builder := builder.withTokens tokens
      match tokens with
      | .flowMappingEnd :: rest => return ([], builder.withTokens rest)
      | .key :: rest =>
        let builder := builder.withTokens rest
        let (key, builder) ←
          match rest with
          | .value :: _ | .flowEntry :: _ | .flowMappingEnd :: _ => pure (Node.empty, builder)
          | _ => buildNode handles fuel .flow builder
        let (value, builder) ←
          match builder.tokens with
          | .value :: rest =>
            let builder := builder.withTokens rest
            match rest with
            | .flowEntry :: _ | .flowMappingEnd :: _ => pure (Node.empty, builder)
            | _ => buildNode handles fuel .flow builder
          | _ => pure (Node.empty, builder)
        let (entries, builder) ← buildFlowMapping handles fuel false builder
        return ((key, value) :: entries, builder)
      | _ =>
        let (key, builder) ← buildNode handles fuel .flow builder
        let (entries, builder) ← buildFlowMapping handles fuel false builder
        return ((key, .empty) :: entries, builder)

end

/-! ## Documents -/

/-- The handles that every document knows. -/
def defaultHandles : Handles :=
  [(['!'], ['!']), (['!', '!'], "tag:yaml.org,2002:".toList)]

/-- The directives before a document: at most one version, which has to be of the first major
number, and handles that differ. -/
def directives (versioned : Bool) (handles : Handles) :
    List Token → Except Fault (Handles × List Token)
  | .version major :: rest =>
    if versioned || major ≠ 1 then .error .malformed else directives true handles rest
  | .tagHandle handle meaning :: rest =>
    if Entries.has handle handles then .error .malformed
    else directives versioned (handles ++ [(handle, meaning)]) rest
  | .reserved :: rest => directives versioned handles rest
  | rest => .ok (handles ++ defaultHandles, rest)

/-- Whether nothing but marks of a document's end is left. -/
def endDocument : List Token → Except Fault Unit
  | [] => .ok ()
  | .documentEnd :: rest => endDocument rest
  | .broken fault :: _ => .error fault
  | _ => .error .malformed

/-- The root of the only document of the tokens, if there is one. -/
def rootOf (tokens : List Token) : Except Fault (Option Node) := do
  let root (handles : Handles) (tokens : List Token) : Except Fault (Option Node) := do
    let (node, builder) ← buildNode handles (2 * tokens.length + 2) .block { tokens }
    endDocument builder.tokens
    return some node
  match tokens with
  | [] => return none
  | .version _ :: _ | .tagHandle .. :: _ | .reserved :: _ | .documentStart :: _ =>
    let (handles, rest) ← directives false [] tokens
    match rest with
    | .documentStart :: rest =>
      match rest with
      | [] | .documentEnd :: _ | .documentStart :: _ | .version _ :: _ | .tagHandle .. :: _
      | .reserved :: _ => do
        endDocument rest
        return some .empty
      | _ => root handles rest
    | .broken fault :: _ => .error fault
    | _ => .error .malformed
  | _ => root defaultHandles tokens

end GrokEvents.Yaml
