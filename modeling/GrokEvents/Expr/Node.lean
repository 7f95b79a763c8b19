/-
**Expressions.**

The tree that an expression's text denotes, with all modes resolved: case folding and wide
character kinds stand in the sets, the meaning of the dot and of the line anchors in the nodes
themselves.
-/

import GrokEvents.Expr.CharSet

namespace GrokEvents.Expr

/-- A condition on the place reached in the subject. -/
inductive Anchor where
  /-- The very start of the subject. -/
  | textStart
  /-- The very end of the subject. -/
  | textEnd
  /-- The end of the subject, or the place before a line break that ends it. -/
  | lastLineEnd
  /-- The start of a line. -/
  | lineStart
  /-- The end of a line. -/
  | lineEnd
  /-- A place between a word character and another one or an end of the subject. -/
  | boundary (wide : Bool)
  /-- A place in a subject that is not empty, where no word starts or ends. -/
  | interior (wide : Bool)
deriving DecidableEq, Repr

/-- How many rounds a loop tries first. -/
inductive Appetite where
  /-- As many as possible, giving back on failure. -/
  | greedy
  /-- As few as possible, taking more on failure. -/
  | lazy
  /-- As many as possible, giving nothing back. -/
  | possessive
deriving DecidableEq, Repr

/-- An expression. -/
inductive Node where
  /-- Matches without consuming anything. -/
  | empty
  /-- Consumes one character of a set. -/
  | one (set : CharSet)
  /-- Matches where a condition on the place holds. -/
  | anchor (condition : Anchor)
  /-- One expression, then another. -/
  | seq (first second : Node)
  /-- One expression or, failing that, another. -/
  | alt (first second : Node)
  /-- An expression whose match is kept under a group number. -/
  | capture (group : Nat) (body : Node)
  /-- Rounds of an expression, at least and at most so many. -/
  | loop (appetite : Appetite) (least : Nat) (most : Option Nat) (body : Node)
  /-- Whether an expression matches ahead, or does not. -/
  | ahead (negated : Bool) (body : Node)
  /-- Whether an expression matches from so many characters back, or does not. -/
  | behind (width : Nat) (negated : Bool) (body : Node)
  /-- An expression that is not entered again once it has matched. -/
  | atomic (body : Node)
  /-- The text that a group has matched; the case of all scripts is folded with `wide`. -/
  | recall (group : Nat) (foldCase wide : Bool)
  /-- One of two expressions, by whether a group has matched. -/
  | choose (group : Nat) (present absent : Node)
deriving DecidableEq, Repr

namespace Node

/-- A row of expressions. -/
def ofList : List Node → Node
  | [] => .empty
  | [last] => last
  | first :: rest => .seq first (ofList rest)

/-- The group numbers of an expression, in the order of their text. -/
def groups : Node → List Nat
  | .empty | .one _ | .anchor _ | .recall .. => []
  | .seq first second | .alt first second | .choose _ first second =>
    first.groups ++ second.groups
  | .capture group body => group :: body.groups
  | .loop _ _ _ body | .ahead _ body | .behind _ _ body | .atomic body => body.groups

/-- Whether an expression has a loop. -/
def hasLoop : Node → Bool
  | .empty | .one _ | .anchor _ | .recall .. => false
  | .seq first second | .alt first second | .choose _ first second =>
    first.hasLoop || second.hasLoop
  | .capture _ body | .ahead _ body | .behind _ _ body | .atomic body => body.hasLoop
  | .loop .. => true

/-! ## Widths -/

/-- The least and the greatest number of characters that an expression consumes. -/
structure Width where
  least : Nat
  most : Nat
deriving DecidableEq, Repr

/-- Counts from this one on are beyond what a loop may carry. -/
def countLimit : Nat := 4294967295

/-- The greatest width that is told apart. -/
def widthLimit : Nat := Nat.pow 2 64

/-- A width cut off at the limit. -/
def Width.capped (least most : Nat) : Width :=
  ⟨min least widthLimit, min most widthLimit⟩

/-- Whether a width is too uncertain or too great to look behind for. -/
def Width.varies (width : Width) : Bool :=
  width.least != width.most || countLimit < width.least

/-- The width of an expression, given the widths of the groups it refers to. -/
def width (groupWidth : Nat → Width) : Node → Width
  | .empty | .anchor _ | .ahead .. | .behind .. => ⟨0, 0⟩
  | .one _ => ⟨1, 1⟩
  | .seq first second =>
    let one := first.width groupWidth
    let two := second.width groupWidth
    .capped (one.least + two.least) (one.most + two.most)
  | .alt first second | .choose _ first second =>
    let one := first.width groupWidth
    let two := second.width groupWidth
    .capped (min one.least two.least) (max one.most two.most)
  | .capture _ body | .atomic body => body.width groupWidth
  | .loop _ least most body =>
    let round := body.width groupWidth
    .capped (round.least * least)
      (match most with
      | some limit => round.most * limit
      | none => if round.most = 0 then 0 else widthLimit)
  | .recall group .. => groupWidth group

end Node

end GrokEvents.Expr
