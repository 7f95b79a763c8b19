/-
**Sets of characters in expressions.**

A set lists code points, spans of them and character kinds, and may be turned into its complement.
Literals and the dot are sets too, so that every lexeme that consumes a character is one kind of
node.

* `CharSet.contains`: whether a character belongs to a set, with its case or without.
* `literal_contains`: a literal stands for its own character alone.
-/

import GrokEvents.Text.Blank
import GrokEvents.Text.Case
import GrokEvents.Text.Digit
import GrokEvents.Text.Alphanumeric
import GrokEvents.Text.Identifier

namespace GrokEvents.Expr

open Text

/-! ## Character kinds -/

/-- The three kinds of characters that have an escape of their own. -/
inductive Kind where
  | digit
  | blank
  | word
deriving DecidableEq, Repr

/-- Whether a character is of a kind; `wide` admits the characters of all scripts. -/
def Kind.holds (wide : Bool) : Kind → Char → Bool
  | .digit, char => if wide then (digitValue? char).isSome else char.isDigit
  | .blank, char => if wide then isBlank char else isAsciiBlank char
  | .word, char => if wide then isAlphanumeric char || char == '_' else isWordChar char

/-! ## Sets -/

/-- A member of the list that a set is written as. -/
inductive SetItem where
  | one (code : Nat)
  | span (first last : Nat)
  | kind (member : Kind) (outside : Bool)
deriving DecidableEq, Repr

/-- Whether an item covers a character. -/
def SetItem.covers (wide : Bool) (char : Char) : SetItem → Bool
  | .one code => code == char.toNat
  | .span first last => first ≤ char.toNat && char.toNat ≤ last
  | .kind member outside => member.holds wide char != outside

/-! ## Case -/

/-- The mapping to lower case: of the letters of all scripts with `wide`, else of those of ASCII. -/
def lowerRunsOf (wide : Bool) : List CaseRun :=
  if wide then lowerRuns else asciiLowerRuns

/-- The lower case of a code point. -/
def lowerCase (wide : Bool) (code : Nat) : Nat :=
  changeCase (lowerRunsOf wide) code

/-- The lower case letters that one of them stands for, itself included. -/
def kin (wide : Bool) (lower : Nat) : List Nat :=
  if wide then (kindred.find? (·.contains lower)).getD [lower] else [lower]

/-- The last code point of the first plane. -/
def planeEnd : Nat := 0xFFFF

/-- Whether an item covers a character without its case. A span is searched for what has the case
of the character; beyond the first plane its ends are compared with the lower case of the character
and the upper case of that, and so is a code point unless it is `lone` in its set. -/
def SetItem.coversFolded (wide lone : Bool) (char : Char) : SetItem → Bool
  | .one code =>
    let lower := lowerCase wide char.toNat
    if lone || code ≤ planeEnd then (kin wide lower).contains (lowerCase wide code)
    else code == lower
  | .span first last =>
    let lower := lowerCase wide char.toNat
    let upper := changeCase upperRuns lower
    (kin wide lower).any (fun like => (caseSources (lowerRunsOf wide) like).any
      fun code => first ≤ code && code ≤ min last planeEnd) ||
    (planeEnd < last &&
      ((first ≤ lower && lower ≤ last) || (first ≤ upper && upper ≤ last)))
  | .kind member outside => member.holds wide char != outside

/-! ## Membership -/

/-- A set of characters: its items, or all that they do not cover when `outside` is set. With
`foldCase` a character is covered whatever its case. -/
structure CharSet where
  items : List SetItem
  outside : Bool := false
  foldCase : Bool := false
  wide : Bool := false
deriving DecidableEq, Repr

namespace CharSet

/-- Whether a character belongs to the set. -/
def contains (set : CharSet) (char : Char) : Bool :=
  let covered :=
    if set.foldCase then
      set.items.any (SetItem.coversFolded set.wide (set.items.eraseDups.length == 1) char)
    else set.items.any (SetItem.covers set.wide char)
  covered != set.outside

/-- The set of one character. -/
def literal (char : Char) : CharSet :=
  ⟨[.one char.toNat], false, false, false⟩

/-- A literal contains its character and no other. -/
theorem literal_contains (char other : Char) :
    (literal char).contains other = true ↔ char = other := by
  simp only [literal, contains, SetItem.covers, List.any_cons, List.any_nil, Bool.or_false,
    Bool.false_eq_true, if_false, bne_iff_ne, ne_eq, Bool.not_eq_false, beq_iff_eq]
  exact ⟨fun equal => Char.toNat_inj.mp equal, fun equal => equal ▸ rfl⟩

end CharSet

end GrokEvents.Expr
