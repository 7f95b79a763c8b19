/-
**Phrases.**

A phrase is the syntax of an expression of a simple kind, apart from what it means: characters, sets
and escapes of one lexeme, groups that capture nothing or under a name, each perhaps with a
quantifier, and alternatives. It is made such that nothing of it can be read together with what
stands beside it.

* `Phrase.spell`, `Phrase.names`, `Phrase.nodes`: how a phrase stands in a text, which groups it
  names, and the nodes that it comes to.
* `Phrase.isFine`: nothing of the phrase can be read together with what stands beside it.
* `Phrase.ofText`: the phrase of a text. It is not proved to be one; whoever takes it compares what
  it spells with the text.
-/

import GrokEvents.Expr.Reader

namespace GrokEvents.Expr

open Text

/-! ### Atoms -/

/-- What stands for one character or for a place, without a group. -/
inductive Atom where
  | plain (char : Char)
  | escape (char : Char)
  /-- A set, with what follows its opening bracket up to the closing one. -/
  | set (inside : List Lexeme)

/-- The characters that do not stand for themselves or for a place. -/
def isReserved (char : Char) : Bool :=
  ['(', ')', '[', '|', '*', '+', '?', '{', '\\'].contains char

/-- A lexeme that is read alone, within a set too. -/
def Lexeme.isAlone : Lexeme → Bool
  | .plain char => char != '\\'
  | .escape char => (kindItem? char).isSome || !char.isAlphanum
  | .named .. | .dangling => false

namespace Atom

/-- The lexemes of an atom. -/
def spell : Atom → List Lexeme
  | .plain char => [.plain char]
  | .escape char => [.escape char]
  | .set inside => .plain '[' :: inside

/-- The item that an atom comes to, if it is well formed. -/
def item? : Atom → Option Item
  | .plain char => if isReserved char then none else some (plainItem {} char)
  | .escape char =>
    match anchor? {} char, kindItem? char with
    | some anchor, _ => some (anchorItem anchor)
    | none, some item => some (setItem {} [item] false)
    | none, none => if char.isAlphanum then none else some (setItem {} [.one char.toNat] false)
  | .set inside =>
    if inside.all Lexeme.isAlone then
      match readSet inside with
      | .ok (items, outside, []) => some (setItem {} items outside)
      | _ => none
    else none

end Atom

/-! ### Quantifiers -/

/-- The bounds of a quantifier. -/
inductive Bounds where
  | any
  | several
  | optional
  /-- Numerals between braces, with a comma where there is a second one. -/
  | braces (least : Text) (most : Option Text)

/-- A quantifier, which may be lazy. -/
structure Count where
  bounds : Bounds
  isLazy : Bool

namespace Bounds

/-- The lexemes of bounds. -/
def spell : Bounds → List Lexeme
  | .any => [.plain '*']
  | .several => [.plain '+']
  | .optional => [.plain '?']
  | .braces least most =>
    .plain '{' :: (least ++ (most.map (',' :: ·)).getD [] ++ ['}']).map .plain

/-- The rounds that bounds ask for, if they are well formed. -/
def rounds? : Bounds → Option (Nat × Option Nat)
  | .any => some (0, none)
  | .several => some (1, none)
  | .optional => some (0, some 1)
  | .braces least most =>
    if least.all Char.isDigit && (most.getD []).all Char.isDigit && (most.isSome || !least.isEmpty) then
      (readRounds least (most.getD least) []).toOption
    else none

end Bounds

namespace Count

/-- The lexemes of a quantifier. -/
def spell (count : Count) : List Lexeme :=
  count.bounds.spell ++ if count.isLazy then [.plain '?'] else []

/-- The loop that a quantifier makes of a node. -/
def loop (count : Count) (node : Node) : Node :=
  let (least, most) := count.bounds.rounds?.getD (0, none)
  .loop (if count.isLazy then .lazy else .greedy) least most node

/-- The lexemes of a quantifier that may be missing. -/
def spellAny (count : Option Count) : List Lexeme :=
  (count.map spell).getD []

/-- What a quantifier that may be missing makes of a node. -/
def wrap : Option Count → Node → Node
  | none, node => node
  | some count, node => count.loop node

/-- Whether a quantifier may stand behind an item of a form. -/
def fits (form : Form) : Option Count → Bool
  | none => true
  | some count => form = .repeatable && count.bounds.rounds?.isSome

end Count

/-! ### Phrases -/

/-- The two tiers of an expression's syntax. -/
inductive Tier where
  /-- One item after the other. -/
  | row
  /-- Rows with bars between them. -/
  | choice

/-- The syntax of an expression. -/
inductive Phrase : Tier → Type where
  | empty : Phrase .row
  | unit (atom : Atom) (count : Option Count) (rest : Phrase .row) : Phrase .row
  /-- A group, under a name if it captures. -/
  | group (name : Option Text) (body : Phrase .choice) (count : Option Count) (rest : Phrase .row) :
    Phrase .row
  | only (row : Phrase .row) : Phrase .choice
  | either (first : Phrase .row) (others : Phrase .choice) : Phrase .choice

/-- What follows the question mark of a group. -/
def spellHeader : Option Text → List Lexeme
  | none => [.plain ':']
  | some name => .plain 'P' :: .plain '<' :: name.map .plain ++ [.plain '>']

namespace Phrase

/-- The lexemes of a phrase. -/
def spell {tier : Tier} : Phrase tier → List Lexeme
  | .empty => []
  | .unit atom count rest => atom.spell ++ Count.spellAny count ++ rest.spell
  | .group name body count rest =>
    .plain '(' :: .plain '?' :: spellHeader name ++ body.spell ++ .plain ')' ::
      (Count.spellAny count ++ rest.spell)
  | .only row => row.spell
  | .either first others => first.spell ++ .plain '|' :: others.spell

/-- The text of a phrase. -/
def text {tier : Tier} (phrase : Phrase tier) : Text :=
  phrase.spell.flatMap Lexeme.spell

/-- The names of the groups of a phrase, in the order of their opening. -/
def names {tier : Tier} : Phrase tier → List Text
  | .empty => []
  | .unit _ _ rest => rest.names
  | .group name body _ rest => name.toList ++ body.names ++ rest.names
  | .only row => row.names
  | .either first others => first.names ++ others.names

/-- The nodes of a phrase in a row, behind so many groups. -/
def nodes {tier : Tier} : Phrase tier → (groups : Nat) → List Node
  | .empty, _ => []
  | .unit atom count rest, groups =>
    Count.wrap count ((atom.item?.map Item.node).getD .empty) :: rest.nodes groups
  | .group none body count rest, groups =>
    Count.wrap count (.ofList (body.nodes groups)) :: rest.nodes (groups + body.names.length)
  | .group (some _) body count rest, groups =>
    Count.wrap count (.capture (groups + 1) (.ofList (body.nodes (groups + 1)))) ::
      rest.nodes (groups + 1 + body.names.length)
  | .only row, groups => row.nodes groups
  | .either first others, groups =>
    [.alt (.ofList (first.nodes groups)) (.ofList (others.nodes (groups + first.names.length)))]

/-- The expression of a row. -/
def expression (row : Phrase .row) : Expression :=
  ⟨.ofList (row.nodes 0), row.names.length, row.names.zipIdx 1⟩

/-- Whether all parts of a phrase are well formed. -/
def isFine {tier : Tier} : Phrase tier → Bool
  | .empty => true
  | .unit atom count rest =>
    (atom.item?.any fun item => Count.fits item.form count) && rest.isFine
  | .group name body count rest =>
    name.all (fun name => name.all isWordChar && !name.isEmpty) && Count.fits .repeatable count &&
      body.isFine && rest.isFine
  | .only row => row.isFine
  | .either first others => first.isFine && others.isFine

/-- A phrase with a row behind its last one. -/
def append {tier : Tier} : Phrase tier → Phrase .row → Phrase tier
  | .empty, more => more
  | .unit atom count rest, more => .unit atom count (rest.append more)
  | .group name body count rest, more => .group name body count (rest.append more)
  | .only row, more => .only (row.append more)
  | .either first others, more => .either first (others.append more)

variable {tier : Tier}

theorem append_assoc (phrase : Phrase tier) (middle more : Phrase .row) :
    (phrase.append middle).append more = phrase.append (middle.append more) := by
  induction phrase with
  | empty => rfl
  | unit atom count rest ih => simp [append, ih]
  | group name body count rest _ ih => simp [append, ih]
  | only row ih => simp [append, ih]
  | either first others _ ih => simp [append, ih]

theorem spell_append (phrase : Phrase tier) (more : Phrase .row) :
    (phrase.append more).spell = phrase.spell ++ more.spell := by
  induction phrase with
  | empty => rfl
  | unit atom count rest ih => simp [append, spell, ih]
  | group name body count rest _ ih => simp [append, spell, ih]
  | only row ih => exact ih
  | either first others _ ih => simp [append, spell, ih]

theorem text_append (phrase : Phrase tier) (more : Phrase .row) :
    (phrase.append more).text = phrase.text ++ more.text := by
  rw [text, spell_append, List.flatMap_append]
  rfl

theorem names_append (phrase : Phrase tier) (more : Phrase .row) :
    (phrase.append more).names = phrase.names ++ more.names := by
  induction phrase with
  | empty => rfl
  | unit atom count rest ih => exact ih
  | group name body count rest _ ih => simp [append, names, ih]
  | only row ih => exact ih
  | either first others _ ih => simp [append, names, ih]

theorem isFine_append (phrase : Phrase tier) (more : Phrase .row) :
    (phrase.append more).isFine = (phrase.isFine && more.isFine) := by
  induction phrase with
  | empty => rfl
  | unit atom count rest ih => simp [append, isFine, ih, Bool.and_assoc]
  | group name body count rest _ ih => simp [append, isFine, ih, Bool.and_assoc]
  | only row ih => exact ih
  | either first others _ ih => simp [append, isFine, ih, Bool.and_assoc]

/-- The names of a well-formed phrase are words. -/
theorem word_of_mem_names {phrase : Phrase tier} (fine : phrase.isFine = true) {name : Text}
    (member : name ∈ phrase.names) : name.all isWordChar = true ∧ name ≠ [] := by
  induction phrase with
  | empty => cases member
  | unit atom count rest ih => exact ih (Bool.and_eq_true_iff.mp fine).2 member
  | group given body count rest ihBody ihRest =>
    simp only [isFine, Bool.and_eq_true] at fine
    obtain ⟨⟨⟨isName, -⟩, fineBody⟩, fineRest⟩ := fine
    rcases List.mem_append.mp member with before | inRest
    · rcases List.mem_append.mp before with here | inBody
      · rw [Option.mem_toList.mp here] at isName
        simpa using isName
      · exact ihBody fineBody inBody
    · exact ihRest fineRest inRest
  | only row ih => exact ih fine member
  | either first others ihFirst ihOthers =>
    obtain ⟨fineFirst, fineOthers⟩ := Bool.and_eq_true_iff.mp fine
    rcases List.mem_append.mp member with inFirst | inOthers
    · exact ihFirst fineFirst inFirst
    · exact ihOthers fineOthers inOthers

end Phrase

/-! ### The phrase of a text -/

namespace Phrase

/-- The quantifier that lexemes start with, if any, and the lexemes after it. -/
def takeCount (rest : List Lexeme) : Option Count × List Lexeme :=
  let bounds? : Option (Bounds × List Lexeme) :=
    match rest with
    | .plain '{' :: inside =>
      (readBounds? inside).map fun (least, most, left) =>
        (.braces least (if inside[least.length]? = some (.plain ',') then some most else none), left)
    | .plain '*' :: left => some (.any, left)
    | .plain '+' :: left => some (.several, left)
    | .plain '?' :: left => some (.optional, left)
    | _ => none
  match bounds? with
  | none => (none, rest)
  | some (bounds, .plain '?' :: left) => (some ⟨bounds, true⟩, left)
  | some (bounds, left) => (some ⟨bounds, false⟩, left)

mutual

/-- The row that lexemes start with, and the lexemes after it. -/
def takeRow : (fuel : Nat) → List Lexeme → Phrase .row × List Lexeme
  | 0, rest => (.empty, rest)
  | fuel + 1, rest =>
    match rest with
    | .plain '(' :: .plain '?' :: .plain ':' :: inside => takeGroup fuel none inside
    | .plain '(' :: .plain '?' :: .plain 'P' :: .plain '<' :: inside =>
      let (name, left) := takePlain (· != '>') inside.length inside
      takeGroup fuel (some name) (left.drop 1)
    | .plain '[' :: inside =>
      let left := match readSet inside with
        | .ok (_, _, left) => left
        | .error _ => []
      takeUnit fuel (.set (inside.take (inside.length - left.length))) left
    | .plain char :: left =>
      if char = '|' || char = ')' then (.empty, rest) else takeUnit fuel (.plain char) left
    | .escape char :: left => takeUnit fuel (.escape char) left
    | _ => (.empty, rest)

/-- A row that starts with an atom, after the atom. -/
def takeUnit : (fuel : Nat) → Atom → List Lexeme → Phrase .row × List Lexeme
  | 0, _, rest => (.empty, rest)
  | fuel + 1, atom, rest =>
    let (count, left) := takeCount rest
    let (more, left) := takeRow fuel left
    (.unit atom count more, left)

/-- A row that starts with a group, after the header of the group. -/
def takeGroup : (fuel : Nat) → Option Text → List Lexeme → Phrase .row × List Lexeme
  | 0, _, rest => (.empty, rest)
  | fuel + 1, name, rest =>
    let (body, left) := takeChoice fuel rest
    let (count, left) := takeCount (left.drop 1)
    let (more, left) := takeRow fuel left
    (.group name body count more, left)

/-- The rows that lexemes start with, and the lexemes after them. -/
def takeChoice : (fuel : Nat) → List Lexeme → Phrase .choice × List Lexeme
  | 0, rest => (.only .empty, rest)
  | fuel + 1, rest =>
    let (first, left) := takeRow fuel rest
    match left with
    | .plain '|' :: left =>
      let (others, left) := takeChoice fuel left
      (.either first others, left)
    | _ => (.only first, left)

end

/-- The row of a text, as far as it is one. -/
def ofText (text : Text) : Phrase .row :=
  (takeRow (2 * text.length + 1) (lexemes text)).1

end Phrase

end GrokEvents.Expr
