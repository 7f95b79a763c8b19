/-
**Matching.**

An expression is matched by backtracking: each node is a step that is given the place reached and
what is still to be matched after it, and tries its ways on in order until one leads to the end.
Places are cursors into the subject, so what a group keeps is always a span of the subject.

* `slice_append`: what a span holds is a stretch of the subject.
-/

import GrokEvents.Expr.Reader
import GrokEvents.Entries

namespace GrokEvents.Expr

open Text

/-! ## Places -/

/-- A place in a subject: the characters before it, the nearest first, how many they are, and the
characters after it. -/
structure Cursor where
  before : Text
  position : Nat
  after : Text
deriving DecidableEq, Repr

namespace Cursor

/-- The start of a subject. -/
def start (subject : Text) : Cursor :=
  ⟨[], 0, subject⟩

/-- The next place, past a character that comes now. -/
def next (cursor : Cursor) (char : Char) (rest : Text) : Cursor :=
  ⟨char :: cursor.before, cursor.position + 1, rest⟩

/-- The place so many characters back. -/
def back? : Nat → Cursor → Option Cursor
  | 0, cursor => some cursor
  | count + 1, ⟨char :: before, position, after⟩ =>
    back? count ⟨before, position - 1, char :: after⟩
  | _ + 1, ⟨[], _, _⟩ => none

end Cursor

/-- Whether a word character comes first in a text. -/
def wordFirst (wide : Bool) : Text → Bool
  | [] => false
  | char :: _ => Kind.word.holds wide char

/-- Whether the condition of an anchor holds at a place. -/
def Anchor.holds (cursor : Cursor) : Anchor → Bool
  | .textStart => cursor.before.isEmpty
  | .textEnd => cursor.after.isEmpty
  | .lastLineEnd => cursor.after.isEmpty || cursor.after == ['\n']
  | .lineStart => cursor.before.isEmpty || cursor.before.head? == some '\n'
  | .lineEnd => cursor.after.isEmpty || cursor.after.head? == some '\n'
  | .boundary wide => wordFirst wide cursor.before != wordFirst wide cursor.after
  | .interior wide =>
    !(cursor.before.isEmpty && cursor.after.isEmpty) &&
      wordFirst wide cursor.before == wordFirst wide cursor.after

/-- The text that is matched, with the number of its characters. -/
structure Subject where
  text : Text
  size : Nat := text.length
  size_eq : size = text.length := by rfl

/-! ## Captures -/

/-- Where a group was last opened and last closed. -/
structure Span where
  opened : Option Nat := none
  closed : Option Nat := none
deriving DecidableEq, Repr

/-- The spans of the groups, by number from one. -/
abbrev Captures := List Span

/-- The ends of a group that has been opened and closed, in this order. -/
def Captures.ends? (captures : Captures) (group : Nat) : Option (Nat × Nat) :=
  match captures[group - 1]? with
  | some ⟨some opened, some closed⟩ => if opened ≤ closed then some (opened, closed) else none
  | _ => none

/-- The stretch of a subject between two places. -/
def slice (subject : Text) (ends : Nat × Nat) : Text :=
  (subject.drop ends.1).take (ends.2 - ends.1)

theorem slice_append (subject : Text) (ends : Nat × Nat) :
    ∃ before after, subject = before ++ slice subject ends ++ after :=
  ⟨subject.take ends.1, (subject.drop ends.1).drop (ends.2 - ends.1), by
    rw [slice, List.append_assoc, List.take_append_drop, List.take_append_drop]⟩

/-- A place and the captures on the way to it. -/
structure Progress where
  cursor : Cursor
  captures : Captures
deriving DecidableEq, Repr

/-- What is still to be matched from a place on. -/
abbrev Rest := Progress → Option Progress

/-- A way to match: from a place, with what is still to be matched after it. -/
abbrev Step := Progress → Rest → Option Progress

/-- The first answer of two, the second being asked for only if the first is none. -/
@[inline] def firstOf (first : Option Progress) (second : Unit → Option Progress) :
    Option Progress :=
  match first with
  | some found => some found
  | none => second ()

/-! ## Loops over one character -/

/-- Whether a loop with so many rounds left, if they are bounded, may make another one. -/
def goesOn (left : Option Nat) : Bool :=
  left != some 0

/-- The rounds left after one more. -/
def afterRound (left : Option Nat) : Option Nat :=
  left.map (· - 1)

/-- The places that characters of a set lead to, at least `least` and at most `most` of them, the
farthest first, before those in `passed`. -/
def reach (set : CharSet) : (after : Text) → (least : Nat) → (most : Option Nat) → Cursor →
    List Cursor → List Cursor
  | after, least, most, cursor, passed =>
    let passed := if least = 0 then cursor :: passed else passed
    match after with
    | [] => passed
    | char :: rest =>
      if goesOn most && set.contains char then
        reach set rest (least - 1) (afterRound most) (cursor.next char rest) passed
      else passed

/-- Matches what follows at the nearest place that characters of a set lead to, at least `least`
and at most `most` of them. -/
def creep (set : CharSet) (captures : Captures) (rest : Rest) :
    (after : Text) → (least : Nat) → (most : Option Nat) → Cursor → Option Progress
  | after, least, most, cursor =>
    let here := if least = 0 then rest ⟨cursor, captures⟩ else none
    firstOf here fun _ =>
      match after with
      | [] => none
      | char :: left =>
        if goesOn most && set.contains char then
          creep set captures rest left (least - 1) (afterRound most) (cursor.next char left)
        else none

/-- A loop over one character of a set. -/
def loopOne (appetite : Appetite) (least : Nat) (most : Option Nat) (set : CharSet) : Step :=
  fun progress rest =>
    let after := progress.cursor.after
    match appetite with
    | .lazy => creep set progress.captures rest after least most progress.cursor
    | .greedy =>
      (reach set after least most progress.cursor []).findSome?
        fun cursor => rest ⟨cursor, progress.captures⟩
    | .possessive =>
      match reach set after least most progress.cursor [] with
      | farthest :: _ => rest ⟨farthest, progress.captures⟩
      | [] => none

/-! ## Loops over any body -/

/-- Whether another round may be made after `count` rounds. -/
def belowMost (most : Option Nat) (count : Nat) : Bool :=
  match most with
  | none => true
  | some limit => count < limit

/-- As many rounds as possible. Once the least number is made, a round is tried only from a place
other than the one that the last such round started from. -/
def loopGreedy (body : Step) (least : Nat) (most : Option Nat) :
    (fuel count : Nat) → (last : Option Nat) → Step
  | 0, _, _, _, _ => none
  | fuel + 1, count, last, progress, rest =>
    if count < least then
      body progress fun reached => loopGreedy body least most fuel (count + 1) last reached rest
    else if belowMost most count && last != some progress.cursor.position then
      firstOf
        (body progress fun reached =>
          loopGreedy body least most fuel (count + 1) (some progress.cursor.position) reached rest)
        fun _ => rest progress
    else rest progress

/-- As few rounds as possible. -/
def loopLazy (body : Step) (least : Nat) (most : Option Nat) :
    (fuel count : Nat) → (last : Option Nat) → Step
  | 0, _, _, _, _ => none
  | fuel + 1, count, last, progress, rest =>
    if count < least then
      body progress fun reached => loopLazy body least most fuel (count + 1) last reached rest
    else
      firstOf (rest progress) fun _ =>
        if belowMost most count && last != some progress.cursor.position then
          body progress fun reached =>
            loopLazy body least most fuel (count + 1) (some progress.cursor.position) reached rest
        else none

/-- As many rounds as possible, each of them final. -/
def loopPossessive (body : Step) (least : Nat) (most : Option Nat) :
    (fuel count : Nat) → (last : Option Nat) → Progress → Option Progress
  | 0, _, _, _ => none
  | fuel + 1, count, last, progress =>
    if count < least then
      (body progress some).bind (loopPossessive body least most fuel (count + 1) last)
    else if belowMost most count && last != some progress.cursor.position then
      match body progress some with
      | some reached =>
        loopPossessive body least most fuel (count + 1) (some progress.cursor.position) reached
      | none => some progress
    else some progress

/-- Rounds of a body. Each round past the least number moves on or is the last, so that the size of
the subject bounds their number. -/
def loopAny (size : Nat) (appetite : Appetite) (least : Nat) (most : Option Nat) (body : Step) :
    Step :=
  fun progress rest =>
    let fuel := least + size + 2
    match appetite with
    | .greedy => loopGreedy body least most fuel 0 none progress rest
    | .lazy => loopLazy body least most fuel 0 none progress rest
    | .possessive => (loopPossessive body least most fuel 0 none progress).bind rest

/-! ## Nodes -/

/-- Whether two characters differ by their case only. -/
def sameFolded (wide : Bool) (one other : Char) : Bool :=
  lowerCase wide one.toNat == lowerCase wide other.toNat

/-- Follows a text from a place. -/
def follow (foldCase wide : Bool) : Text → Cursor → Option Cursor
  | [], cursor => some cursor
  | wanted :: more, cursor =>
    match cursor.after with
    | [] => none
    | char :: rest =>
      if wanted = char || (foldCase && sameFolded wide wanted char) then
        follow foldCase wide more (cursor.next char rest)
      else none

/-- The step of a node. -/
def Node.step (subject : Subject) : Node → Step
  | .empty, progress, rest => rest progress
  | .one set, progress, rest =>
    match progress.cursor.after with
    | [] => none
    | char :: left =>
      if set.contains char then rest ⟨progress.cursor.next char left, progress.captures⟩ else none
  | .anchor condition, progress, rest =>
    if condition.holds progress.cursor then rest progress else none
  | .seq first second, progress, rest =>
    first.step subject progress fun reached => second.step subject reached rest
  | .alt first second, progress, rest =>
    firstOf (first.step subject progress rest) fun _ => second.step subject progress rest
  | .capture group body, progress, rest =>
    let opened := progress.captures.modify (group - 1)
      fun span => { span with opened := some progress.cursor.position }
    body.step subject ⟨progress.cursor, opened⟩ fun reached =>
      rest ⟨reached.cursor, reached.captures.modify (group - 1)
        fun span => { span with closed := some reached.cursor.position }⟩
  | .loop appetite least most body, progress, rest =>
    match body with
    | .one set => loopOne appetite least most set progress rest
    | _ => loopAny subject.size appetite least most (body.step subject) progress rest
  | .ahead negated body, progress, rest =>
    match body.step subject progress some with
    | some found => if negated then none else rest ⟨progress.cursor, found.captures⟩
    | none => if negated then rest progress else none
  | .behind width negated body, progress, rest =>
    match (progress.cursor.back? width).bind
        fun cursor => body.step subject ⟨cursor, progress.captures⟩ some with
    | some found => if negated then none else rest ⟨progress.cursor, found.captures⟩
    | none => if negated then rest progress else none
  | .atomic body, progress, rest => (body.step subject progress some).bind rest
  | .recall group foldCase wide, progress, rest =>
    match progress.captures.ends? group with
    | none => none
    | some ends =>
      match follow foldCase wide (slice subject.text ends) progress.cursor with
      | none => none
      | some cursor => rest ⟨cursor, progress.captures⟩
  | .choose group present absent, progress, rest =>
    if (progress.captures.ends? group).isSome then present.step subject progress rest
    else absent.step subject progress rest

/-! ## Searching -/

/-- The first match from a place of the subject on, trying each later place in turn. -/
def searchFrom (step : Step) (unset : Captures) : (after : Text) → Cursor → Option Progress
  | [], cursor => step ⟨cursor, unset⟩ some
  | char :: rest, cursor =>
    firstOf (step ⟨cursor, unset⟩ some) fun _ =>
      searchFrom step unset rest (cursor.next char rest)

namespace Expression

/-- The captures of the leftmost match in a subject. -/
def search (expression : Expression) (subject : Text) : Option Captures :=
  let unset := List.replicate expression.groupCount {}
  (searchFrom (expression.node.step { text := subject }) unset subject (.start subject)).map
    Progress.captures

/-- The named groups that take part in the leftmost match, in the order of their numbers. -/
def fields? (expression : Expression) (subject : Text) : Option (Entries Text Text) :=
  (expression.search subject).map fun captures =>
    expression.names.filterMap fun entry =>
      (captures.ends? entry.2).map fun ends => (entry.1, slice subject ends)

end Expression

end GrokEvents.Expr
