/-
**The lexemes of an expression.**

A backslash and the character after it are one lexeme, wherever they stand; every other character
is a lexeme of its own. A backslash at the very end has nothing to escape. Where an escape asks for a
character by a name that is known, it is one lexeme with the name and its braces.

* `spell_lexemes`: the lexemes of a text spell the text.
* `spell_resolveNames`: so they do once the names among them are resolved.
* `resolveNames_of_unnamed`: where no escape asks for a name, there is nothing to resolve.
-/

import GrokEvents.Expr.CharacterName

namespace GrokEvents.Expr

/-- A smallest unit of an expression's text. -/
inductive Lexeme where
  /-- A character that no backslash precedes. -/
  | plain (char : Char)
  /-- A backslash and the character after it. -/
  | escape (char : Char)
  /-- A character by its name. -/
  | named (name : Text) (char : Char)
  /-- A backslash that ends the expression. -/
  | dangling
deriving DecidableEq, Repr

namespace Lexeme

/-- The characters of a lexeme. -/
def spell : Lexeme → Text
  | .plain char => [char]
  | .escape char => ['\\', char]
  | .named name _ => '\\' :: 'N' :: '\x7b' :: name ++ ['\x7d']
  | .dangling => ['\\']

end Lexeme

/-- The lexemes of an expression's text. -/
def lexemes : Text → List Lexeme
  | [] => []
  | [char] => if char = '\\' then [.dangling] else [.plain char]
  | char :: next :: rest =>
    if char = '\\' then .escape next :: lexemes rest else .plain char :: lexemes (next :: rest)

/-- Nothing of the text is lost. -/
theorem spell_lexemes (text : Text) : (lexemes text).flatMap Lexeme.spell = text := by
  fun_induction lexemes text with
  | case1 => rfl
  | case2 => simp [Lexeme.spell]
  | case3 => simp [Lexeme.spell]
  | case4 next rest ih => simp [Lexeme.spell, ih]
  | case5 char next rest _ ih => simp [Lexeme.spell, ih]

/-! ## Runs -/

/-- Up to `count` plain characters that pass a test, and the lexemes after them. -/
def takePlain (test : Char → Bool) : Nat → List Lexeme → Text × List Lexeme
  | count + 1, .plain char :: rest =>
    if test char then
      let (taken, left) := takePlain test count rest
      (char :: taken, left)
    else ([], .plain char :: rest)
  | _, rest => ([], rest)

/-- Characters that are taken stand at the start of what there is. -/
theorem takePlain_eq (test : Char → Bool) (count : Nat) (rest : List Lexeme) :
    rest = (takePlain test count rest).1.map .plain ++ (takePlain test count rest).2 ∧
      ∀ char ∈ (takePlain test count rest).1, test char = true := by
  fun_induction takePlain test count rest with
  | case1 count char rest holds taken left equal ih =>
    rw [equal] at ih
    obtain ⟨split, all⟩ := ih
    refine ⟨congrArg (Lexeme.plain char :: ·) split, ?_⟩
    intro other member
    rcases List.mem_cons.mp member with rfl | member
    · exact holds
    · exact all other member
  | case2 => exact ⟨rfl, fun _ member => absurd member List.not_mem_nil⟩
  | case3 => exact ⟨rfl, fun _ member => absurd member List.not_mem_nil⟩

/-- Characters that no backslash precedes spell themselves. -/
theorem spell_plain (text : Text) : (text.map Lexeme.plain).flatMap Lexeme.spell = text := by
  rw [List.flatMap_map]
  exact List.flatMap_singleton' text

/-! ## Names -/

/-- The lexeme of a name that is known between braces, and the lexemes after it. -/
def takeNamed? [CharacterNames] : List Lexeme → Option (Lexeme × List Lexeme)
  | .plain '\x7b' :: inside =>
    match takePlain (· != '\x7d') inside.length inside with
    | (name, .plain '\x7d' :: left) =>
      (CharacterNames.named? name).map fun char => (.named name char, left)
    | _ => none
  | _ => none

/-- Resolves the names among lexemes. -/
def resolveNames [CharacterNames] : List Lexeme → List Lexeme
  | .escape 'N' :: rest =>
    match takeNamed? (resolveNames rest) with
    | some (lexeme, left) => lexeme :: left
    | none => .escape 'N' :: resolveNames rest
  | lexeme :: rest => lexeme :: resolveNames rest
  | [] => []

variable [CharacterNames]

theorem spell_takeNamed? {rest left : List Lexeme} {lexeme : Lexeme}
    (taken : takeNamed? rest = some (lexeme, left)) :
    '\\' :: 'N' :: rest.flatMap Lexeme.spell = lexeme.spell ++ left.flatMap Lexeme.spell := by
  unfold takeNamed? at taken
  split at taken
  · rename_i inside
    have split := (takePlain_eq (· != '\x7d') inside.length inside).1
    split at taken
    · rename_i name after stands
      obtain ⟨char, _, same⟩ := Option.map_eq_some_iff.mp taken
      obtain ⟨rfl, rfl⟩ := Prod.mk.inj same
      rw [stands] at split
      rw [split]
      simp [Lexeme.spell, spell_plain]
    · cases taken
  · cases taken

/-- Nothing of the text is lost by resolving names. -/
theorem spell_resolveNames (rest : List Lexeme) :
    (resolveNames rest).flatMap Lexeme.spell = rest.flatMap Lexeme.spell := by
  fun_induction resolveNames rest with
  | case1 rest lexeme left taken ih =>
    rw [List.flatMap_cons, ← spell_takeNamed? taken, ih]
    rfl
  | case2 rest _ ih => rw [List.flatMap_cons, List.flatMap_cons, ih]
  | case3 lexeme rest _ ih => rw [List.flatMap_cons, List.flatMap_cons, ih]
  | case4 => rfl

/-- Where no escape asks for a name, there is nothing to resolve. -/
theorem resolveNames_of_unnamed {rest : List Lexeme} (unnamed : .escape 'N' ∉ rest) :
    resolveNames rest = rest := by
  fun_induction resolveNames rest with
  | case1 => exact absurd List.mem_cons_self unnamed
  | case2 => exact absurd List.mem_cons_self unnamed
  | case3 lexeme rest _ ih => rw [ih fun member => unnamed (List.mem_cons_of_mem _ member)]
  | case4 => rfl

end GrokEvents.Expr
