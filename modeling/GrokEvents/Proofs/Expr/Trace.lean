/-
**Where faults come from.**

A fault answers to something that stands in the text of an expression: a numeral between braces that is
too great or too long, or a group of letters that asks for all scripts.

* `Trace`: what stands in a text that ends in a fault.
* `trace_of_read`: a fault of a text has its trace in the text.
-/

import GrokEvents.Proofs.Expr.Endings

namespace GrokEvents.Expr

open Text

/-! ### Traces -/

/-- A braced quantifier, with a comma where a second numeral may stand. -/
def braced (least : Text) (most : Option Text) : Text :=
  '{' :: least ++ (most.map (',' :: ·)).getD [] ++ ['}']

/-- What stands in a text that ends in a fault. -/
inductive Trace (text : Text) : Fault → Prop where
  | countTooLarge {least digits : Text} {most : Option Text} (stands : braced least most <:+: text)
      (among : digits = least ∨ most = some digits) (numeral : ∀ char ∈ digits, char.isDigit = true)
      (short : digits.length ≤ Fault.numeralLimit) (large : Node.countLimit ≤ toNat 10 digits) :
      Trace text .countTooLarge
  | numeralTooLong {least digits : Text} {most : Option Text}
      (stands : braced least most <:+: text) (among : digits = least ∨ most = some digits)
      (numeral : ∀ char ∈ digits, char.isDigit = true)
      (long : Fault.numeralLimit < digits.length) : Trace text (.numeralTooLong digits.length)
  | modesClash {letters : Text} (stands : "(?".toList ++ letters ++ [')'] <:+: text)
      (flags : ∀ char ∈ letters, (Flag.ofChar? char).isSome = true) (wide : 'u' ∈ letters) :
      Trace text .modesClash

theorem infix_of_suffix {spelled : Text} {found rest : List Lexeme} (ending : found <:+ rest)
    (starts : spelled <+: found.flatMap Lexeme.spell) : spelled <:+: rest.flatMap Lexeme.spell := by
  obtain ⟨before, rfl⟩ := ending
  rw [List.flatMap_append]
  exact starts.isInfix.trans (List.suffix_append _ _).isInfix

theorem exists_of_readBounds? {inside after : List Lexeme} {least most : Text}
    (bounds : readBounds? inside = some (least, most, after)) :
    (∀ char ∈ least, char.isDigit = true) ∧ (∀ char ∈ most, char.isDigit = true) ∧
      ∃ written, (most = least ∨ written = some most) ∧
        braced least written <+: (Lexeme.plain '{' :: inside).flatMap Lexeme.spell := by
  have one := takePlain_eq Char.isDigit inside.length inside
  unfold readBounds? at bounds
  generalize takePlain Char.isDigit inside.length inside = taken at one bounds
  obtain ⟨first, left⟩ := taken
  obtain ⟨rfl, isFirst⟩ := one
  dsimp only at bounds isFirst
  split at bounds
  · rename_i rest
    have two := takePlain_eq Char.isDigit rest.length rest
    generalize takePlain Char.isDigit rest.length rest = taken at two bounds
    obtain ⟨second, left⟩ := taken
    obtain ⟨rfl, isSecond⟩ := two
    dsimp only at bounds isSecond
    split at bounds
    · obtain ⟨rfl, rfl, rfl⟩ := bounds
      refine ⟨isFirst, isSecond, some most, .inr rfl, after.flatMap Lexeme.spell, ?_⟩
      simp [braced, spell_plain, Lexeme.spell]
    · cases bounds
  · split at bounds
    · cases bounds
    · obtain ⟨rfl, rfl, rfl⟩ := bounds
      refine ⟨isFirst, isFirst, none, .inl rfl, after.flatMap Lexeme.spell, ?_⟩
      simp [braced, spell_plain, Lexeme.spell]
  · cases bounds

/-- A numeral that ends in a fault is too great or too long. -/
theorem trace_of_readCount {text least digits : Text} {most : Option Text} {fault : Fault}
    (stands : braced least most <:+: text) (among : digits = least ∨ most = some digits)
    (numeral : ∀ char ∈ digits, char.isDigit = true)
    (read : readCount digits = .error (.fault fault)) : Trace text fault := by
  unfold readCount at read
  dsimp only at read
  split at read
  · cases read
  · split at read
    · rename_i long
      cases read
      exact .numeralTooLong stands among numeral long
    · rename_i short
      split at read
      · rename_i large
        cases read
        exact .countTooLarge stands among numeral (Nat.le_of_not_lt short) large
      · cases read

theorem trace_of_overcounts {rest : List Lexeme} {fault : Fault} (counted : Overcounts fault rest) :
    Trace (rest.flatMap Lexeme.spell) fault := by
  obtain ⟨inside, least, most, after, ending, bounds, rounds⟩ := counted
  obtain ⟨isLeast, isMost, written, second, starts⟩ := exists_of_readBounds? bounds
  have stands := infix_of_suffix ending starts
  rcases error_of_readRounds rounds with low | high | ⟨cause, same, -⟩
  · exact trace_of_readCount stands (.inl rfl) isLeast low
  · exact trace_of_readCount stands second isMost high
  · cases same

theorem readOffFlags_ne_global (on off : List Flag) (rest : List Lexeme) {all : List Flag}
    {left : List Lexeme} : readOffFlags on off rest ≠ .ok (.global all, left) := by
  intro read
  induction rest generalizing off with
  | nil => cases read
  | cons lexeme rest ih =>
    unfold readOffFlags at read
    split at read
    · rename_i same
      obtain ⟨rfl, rfl⟩ := List.cons.inj same
      split at read
      · split at read
        · cases read
        · exact ih _ read
      · split at read <;> cases read
    · cases read

/-- The letters of a group for the whole expression stand right before its closing parenthesis. -/
theorem exists_of_readFlags {on all : List Flag} {rest left : List Lexeme}
    (read : readFlags on rest = .ok (.global all, left)) :
    ∃ letters : Text, rest = letters.map .plain ++ .plain ')' :: left ∧
      (∀ char ∈ letters, (Flag.ofChar? char).isSome = true) ∧
        ∀ flag ∈ all, flag ∈ on ∨ ∃ char ∈ letters, Flag.ofChar? char = some flag := by
  induction rest generalizing on with
  | nil => cases read
  | cons lexeme rest ih =>
    unfold readFlags at read
    split at read
    · rename_i on char rest same
      obtain ⟨rfl, rfl⟩ := List.cons.inj same
      split at read
      · rename_i flag isFlag
        split at read
        · cases read
        · obtain ⟨letters, split, flags, among⟩ := ih read
          refine ⟨char :: letters, by rw [split]; rfl, ?_, ?_⟩
          · intro other member
            rcases List.mem_cons.mp member with rfl | member
            · rw [isFlag]
              rfl
            · exact flags other member
          · intro other member
            rcases among other member with before | ⟨letter, member, isOther⟩
            · rcases List.mem_cons.mp before with rfl | before
              · exact .inr ⟨char, List.mem_cons_self, isFlag⟩
              · exact .inl before
            · exact .inr ⟨letter, List.mem_cons_of_mem _ member, isOther⟩
      · split at read
        · rename_i closing
          cases read
          have closing : char = ')' := (by simpa using closing : char = ')' ∧ _).1
          subst closing
          exact ⟨[], rfl, fun _ member => absurd member List.not_mem_nil, fun _ => .inl⟩
        · split at read
          · cases read
          · split at read
            · exact absurd read (readOffFlags_ne_global _ _ _)
            · split at read <;> cases read
    · cases read

/-- The letter of the flag for all scripts. -/
theorem eq_of_ofChar?_wide {char : Char} (wide : Flag.ofChar? char = some .wide) : char = 'u' := by
  unfold Flag.ofChar? at wide
  split at wide <;> first | rfl | cases wide

theorem trace_of_asksForAll {rest : List Lexeme} (asks : AsksForAll rest) :
    Trace (rest.flatMap Lexeme.spell) .modesClash := by
  obtain ⟨inside, on, left, ending, read, wide⟩ := asks
  obtain ⟨letters, rfl, flags, among⟩ := exists_of_readFlags read
  rcases among _ wide with before | ⟨char, member, isWide⟩
  · cases before
  · obtain rfl := eq_of_ofChar?_wide isWide
    refine .modesClash (infix_of_suffix ending ⟨left.flatMap Lexeme.spell, ?_⟩) flags member
    simp [spell_plain, Lexeme.spell]

/-- A fault of lexemes has its trace in what they spell. -/
theorem trace_of_readLexemes {found : List Lexeme} {fault : Fault}
    (faulted : readLexemes found = .error (.fault fault)) :
    Trace (found.flatMap Lexeme.spell) fault := by
  rcases error_of_bind faulted with ended | ⟨⟨modes, clash, rest⟩, opened, faulted⟩
  · have opening := follows_readOpening {} false (Nat.lt_succ_self found.length)
    rw [ended] at opening
    exact trace_of_overcounts opening
  · have ending := follows_readOpening {} false (Nat.lt_succ_self found.length)
    rw [opened] at ending
    rcases error_of_bind faulted with ended | ⟨⟨node, ledger⟩, _, faulted⟩
    · have body := (follows_read (3 * rest.length + 4)).alternatives ⟨modes, none⟩ { rest } (by simp)
      rw [ended] at body
      exact trace_of_overcounts (Overcounts.mono body ending)
    · dsimp only at faulted
      split at faulted
      · rename_i clashes
        cases faulted
        rw [clashes] at opened
        rcases asksForAll_of_readOpening opened with before | asks
        · cases before
        · exact trace_of_asksForAll asks
      · repeat
          split at faulted
          · cases faulted
        cases faulted

/-- What the lexemes of a text spell once its names are resolved. -/
theorem spell_resolved [CharacterNames] (text : Text) :
    (resolveNames (lexemes text)).flatMap Lexeme.spell = text := by
  rw [spell_resolveNames, spell_lexemes]

/-- A fault of a text has its trace in the text. -/
theorem trace_of_read [CharacterNames] {text : Text} {fault : Fault}
    (faulted : read text = .error (.fault fault)) : Trace text fault := by
  have trace := trace_of_readLexemes faulted
  rwa [spell_resolved] at trace

end GrokEvents.Expr
