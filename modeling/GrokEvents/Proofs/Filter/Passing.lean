/-
**Passing over a text.**

A clause is looked for at every place in turn. It is found where it was written only if no place
before that has an answer.

* `atFirst?_of_passed`, `atLastInside?_of_passed`: a region without an answer is passed over.
* `exists_passed_of_atFirst?`: what is found first stands behind such a region.
* `openingAt?_eq_some_iff`: where a section is opened.
* `passed_of_barrier`: what asks for a keyword, white space and one more character passes over a
  region that lacks this character and ends in something else.
* `prefix_of_barrier`: a text that lacks a character ends before it.
* `arrow?_spaced`: a clause that was written with single spaces is read.
-/

import Mathlib.Data.List.Infix
import Mathlib.Data.List.TakeWhile
import GrokEvents.Filter.Section
import GrokEvents.Filter.Clause

namespace GrokEvents.Filter

open Text

variable {Value : Type}

/-- No place inside the region has an answer, before the given rest. -/
def Passed (answer? : Text → Option Value) (region rest : Text) : Prop :=
  ∀ ending, ending <:+ region → ending ≠ [] → answer? (ending ++ rest) = none

/-- Every answer stands at a keyword, white space and one more character. -/
def AsksFor (answer? : Text → Option Value) (keyword : Text) (next : Char) : Prop :=
  ∀ text found, answer? text = some found →
    ∃ blanks rest, text = keyword ++ blanks ++ next :: rest ∧ ∀ blank ∈ blanks, isBlank blank

/-! ### Regions -/

theorem Passed.tail {answer? : Text → Option Value} {char : Char} {region rest : Text}
    (passed : Passed answer? (char :: region) rest) : Passed answer? region rest :=
  fun ending isEnding => passed ending (isEnding.trans (List.suffix_cons char region))

theorem Passed.head {answer? : Text → Option Value} {char : Char} {region rest : Text}
    (passed : Passed answer? (char :: region) rest) : answer? (char :: (region ++ rest)) = none :=
  passed (char :: region) List.suffix_rfl (List.cons_ne_nil char region)

theorem atFirst?_of_none {answer? : Text → Option Value} {char : Char} {rest : Text}
    (here : answer? (char :: rest) = none) :
    atFirst? answer? (char :: rest) = atFirst? answer? rest := by
  rw [atFirst?, here]

theorem atFirst?_of_passed {answer? : Text → Option Value} {region rest : Text}
    (passed : Passed answer? region rest) :
    atFirst? answer? (region ++ rest) = atFirst? answer? rest := by
  induction region with
  | nil => rfl
  | cons char region ih =>
    rw [List.cons_append, atFirst?_of_none passed.head]
    exact ih passed.tail

theorem atLastInside?_of_passed {answer? : Text → Option Value} {region rest : Text}
    (passed : Passed answer? region rest) (restless : atLastInside? answer? rest = none) :
    atLastInside? answer? (region ++ rest) = none := by
  induction region with
  | nil => exact restless
  | cons char region ih =>
    rw [List.cons_append, atLastInside?, ih passed.tail, ite_self]
    exact passed.head

theorem atFirst?_of_answer {answer? : Text → Option Value} {text : Text} {found : Value}
    (here : answer? text = some found) : atFirst? answer? text = some found := by
  cases text with
  | nil => exact here
  | cons char rest => rw [atFirst?, here]

theorem Passed.cons {answer? : Text → Option Value} {char : Char} {region rest : Text}
    (here : answer? (char :: (region ++ rest)) = none) (passed : Passed answer? region rest) :
    Passed answer? (char :: region) rest := by
  intro ending isEnding nonempty
  rcases List.suffix_cons_iff.mp isEnding with rfl | inside
  · exact here
  · exact passed ending inside nonempty

/-- What is found first stands at some place, and no place before it has an answer. -/
theorem exists_passed_of_atFirst? {answer? : Text → Option Value} {text : Text} {found : Value}
    (first : atFirst? answer? text = some found) :
    ∃ before after, text = before ++ after ∧ Passed answer? before after ∧
      answer? after = some found := by
  have nothing (text : Text) : Passed answer? [] text :=
    fun ending isEnding nonempty => absurd (List.suffix_nil.mp isEnding) nonempty
  induction text with
  | nil => exact ⟨[], [], rfl, nothing [], first⟩
  | cons char rest ih =>
    cases here : answer? (char :: rest) with
    | some other =>
      rw [atFirst?_of_answer here] at first
      exact ⟨[], char :: rest, rfl, nothing _, here.trans first⟩
    | none =>
      rw [atFirst?_of_none here] at first
      obtain ⟨before, after, rfl, passed, answered⟩ := ih first
      exact ⟨char :: before, after, rfl, .cons here passed, answered⟩

/-- What is found first stands at some place. -/
theorem exists_of_atFirst? {answer? : Text → Option Value} {text : Text}
    {found : Value} (first : atFirst? answer? text = some found) :
    ∃ before after, text = before ++ after ∧ answer? after = some found := by
  obtain ⟨before, after, split, -, answered⟩ := exists_passed_of_atFirst? first
  exact ⟨before, after, split, answered⟩

/-- Where any place has an answer, something is found. -/
theorem atFirst?_isSome_of_answer {answer? : Text → Option Value} {after : Text}
    (answered : (answer? after).isSome = true) (before : Text) :
    (atFirst? answer? (before ++ after)).isSome = true := by
  induction before with
  | nil =>
    obtain ⟨found, here⟩ := Option.isSome_iff_exists.mp answered
    rw [List.nil_append, atFirst?_of_answer here]
    rfl
  | cons char before ih =>
    cases here : answer? (char :: (before ++ after)) with
    | some other =>
      rw [List.cons_append, atFirst?_of_answer here]
      rfl
    | none =>
      rw [List.cons_append, atFirst?_of_none here]
      exact ih

theorem atLastInside?_of_later {answer? : Text → Option Value} {char : Char} {rest : Text}
    {found : Value} (inside : char ≠ '}') (later : atLastInside? answer? rest = some found) :
    atLastInside? answer? (char :: rest) = some found := by
  rw [atLastInside?, if_neg inside, later]

theorem atLastInside?_of_answer {answer? : Text → Option Value} {char : Char} {rest : Text}
    {found : Value} (here : answer? (char :: rest) = some found)
    (restless : atLastInside? answer? rest = none) :
    atLastInside? answer? (char :: rest) = some found := by
  rw [atLastInside?, restless, ite_self]
  exact here

/-- The last answer inside a section stands after a text without a closing brace. -/
theorem exists_of_atLastInside? {answer? : Text → Option Value} {text : Text} {found : Value}
    (last : atLastInside? answer? text = some found) :
    ∃ before after, text = before ++ after ∧ '}' ∉ before ∧ answer? after = some found := by
  induction text with
  | nil => exact ⟨[], [], rfl, List.not_mem_nil, last⟩
  | cons char rest ih =>
    rw [atLastInside?] at last
    split at last
    · rename_i later
      obtain rfl := Option.some.inj last
      split at later
      · cases later
      · rename_i notClosing
        obtain ⟨before, after, rfl, absent, here⟩ := ih later
        exact ⟨char :: before, after, rfl, by simp [absent, Ne.symm notClosing], here⟩
    · exact ⟨[], char :: rest, rfl, List.not_mem_nil, last⟩

/-- What follows a keyword and an opening brace at the start of a text. -/
def openingAt? (keyword text : Text) : Option Text :=
  (keyword.isPrefixOf? text).bind afterBrace?

/-- The first section of a keyword is the first place that has an answer. -/
theorem afterOpening?_eq_atFirst? (keyword text : Text) :
    afterOpening? keyword text = atFirst? (openingAt? keyword) text := by
  induction text with
  | nil => rfl
  | cons char rest ih =>
    rw [afterOpening?, atFirst?, ih, openingAt?]
    cases (keyword.isPrefixOf? (char :: rest)).bind afterBrace? <;> rfl

/-! ### Keywords -/

/-- A text is its white space and what is left of it. -/
theorem exists_blanks (text : Text) :
    ∃ blanks, text = blanks ++ trimStart text ∧ ∀ blank ∈ blanks, isBlank blank :=
  ⟨text.takeWhile isBlank, List.takeWhile_append_dropWhile.symm,
    fun _ member => List.mem_takeWhile_imp member⟩

theorem exists_of_afterBlanks? {wanted text rest : Text}
    (found : afterBlanks? wanted text = some rest) :
    ∃ blanks, text = blanks ++ wanted ++ rest ∧ ∀ blank ∈ blanks, isBlank blank := by
  obtain ⟨blanks, split, blank⟩ := exists_blanks text
  refine ⟨blanks, ?_, blank⟩
  rw [List.append_assoc, List.append_eq_of_isPrefixOf?_eq_some found]
  exact split

theorem exists_of_arrow? {name wanted text rest : Text}
    (found : arrow? name wanted text = some rest) :
    ∃ first second, text = name ++ first ++ "=>".toList ++ second ++ wanted ++ rest ∧
      (∀ blank ∈ first, isBlank blank) ∧ ∀ blank ∈ second, isBlank blank := by
  obtain ⟨named, isNamed, afterName⟩ := Option.bind_eq_some_iff.mp found
  obtain ⟨pointed, isPointed, isWanted⟩ := Option.bind_eq_some_iff.mp afterName
  obtain rfl := List.append_eq_of_isPrefixOf?_eq_some isNamed
  obtain ⟨first, rfl, firstBlank⟩ := exists_of_afterBlanks? isPointed
  obtain ⟨second, rfl, secondBlank⟩ := exists_of_afterBlanks? isWanted
  exact ⟨first, second, by simp only [List.append_assoc], firstBlank, secondBlank⟩

theorem asksFor_of_afterBlanks? {answer? : Text → Option Value} {keyword : Text} {next : Char}
    (reads : ∀ text found, answer? text = some found →
      ∃ named rest, keyword.isPrefixOf? text = some named ∧ afterBlanks? [next] named = some rest) :
    AsksFor answer? keyword next := by
  intro text found answered
  obtain ⟨named, rest, isNamed, isNext⟩ := reads text found answered
  obtain rfl := List.append_eq_of_isPrefixOf?_eq_some isNamed
  obtain ⟨blanks, rfl, blank⟩ := exists_of_afterBlanks? isNext
  exact ⟨blanks, rest, by simp, blank⟩

theorem asksFor_of_arrow? {answer? : Text → Option Value} {name wanted : Text}
    (arrow : ∀ text found, answer? text = some found → ∃ rest, arrow? name wanted text = some rest) :
    AsksFor answer? name '=' := by
  intro text found answered
  obtain ⟨rest, pointed⟩ := arrow text found answered
  obtain ⟨first, second, rfl, blank, _⟩ := exists_of_arrow? pointed
  exact ⟨first, '>' :: (second ++ wanted ++ rest), by simp, blank⟩

/-- What follows an opening: a keyword, white space and a brace stand before it. -/
theorem openingAt?_eq_some_iff {keyword text opened : Text} :
    openingAt? keyword text = some opened ↔ ∃ blanks, text = keyword ++ (blanks ++ '{' :: opened) ∧
      ∀ blank ∈ blanks, isBlank blank = true := by
  constructor
  · intro found
    obtain ⟨named, isNamed, afterName⟩ := Option.bind_eq_some_iff.mp found
    obtain rfl := List.append_eq_of_isPrefixOf?_eq_some isNamed
    obtain ⟨blanks, split, blank⟩ := exists_blanks named
    unfold afterBrace? at afterName
    split at afterName
    · rename_i rest opening
      obtain rfl := Option.some.inj afterName
      rw [opening] at split
      exact ⟨blanks, congrArg _ split, blank⟩
    · cases afterName
  · rintro ⟨blanks, rfl, blank⟩
    have named := List.isPrefixOf?_eq_some_iff_append_eq.mpr
      (rfl : keyword ++ (blanks ++ '{' :: opened) = _)
    have brace : isBlank '{' = false := rfl
    rw [openingAt?, named, Option.bind_some, afterBrace?, trimStart,
      List.dropWhile_append_of_pos blank, List.dropWhile_cons_of_neg (Bool.eq_false_iff.mp brace)]
    rfl

theorem asksFor_openingAt? (keyword : Text) : AsksFor (openingAt? keyword) keyword '{' := by
  intro text found answered
  obtain ⟨blanks, rfl, blank⟩ := openingAt?_eq_some_iff.mp answered
  exact ⟨blanks, found, by simp, blank⟩

/-! ### Written clauses -/

/-- White space before a text that starts with none is skipped. -/
theorem afterBlanks?_space {first : Char} (notBlank : isBlank first = false) (wanted rest : Text) :
    afterBlanks? (first :: wanted) (' ' :: (first :: wanted ++ rest)) = some rest := by
  have space : isBlank ' ' = true := rfl
  rw [afterBlanks?, trimStart, List.dropWhile_cons_of_pos space, List.cons_append,
    List.dropWhile_cons_of_neg (by simp [notBlank]), ← List.cons_append]
  exact List.isPrefixOf?_eq_some_iff_append_eq.mpr rfl

/-- A text is read up to the first of a character, if there is something before it. -/
theorem upTo?_of_absent {closing : Char} {inside : Text} (absent : closing ∉ inside)
    (nonempty : inside ≠ []) (rest : Text) :
    upTo? closing (inside ++ closing :: rest) = some (inside, rest) := by
  have before : ∀ char ∈ inside, (char != closing) = true := by
    intro char member
    exact bne_iff_ne.mpr fun same => absent (same ▸ member)
  have closes : (closing != closing) = false := bne_self_eq_false closing
  rw [upTo?, run_of_stop before closes]
  obtain ⟨char, others, rfl⟩ := List.exists_cons_of_ne_nil nonempty
  rfl

theorem openingAt?_written (keyword rest : Text) :
    openingAt? keyword (keyword ++ ' ' :: '{' :: rest) = some rest :=
  openingAt?_eq_some_iff.mpr ⟨[' '], rfl, List.forall_mem_singleton.mpr rfl⟩

/-- An arrow with one space before and after it. -/
theorem arrow?_spaced {first : Char} (notBlank : isBlank first = false) (name wanted rest : Text) :
    arrow? name (first :: wanted) (name ++ ' ' :: ("=>".toList ++ ' ' :: (first :: wanted ++ rest))) =
      some rest := by
  have named := List.isPrefixOf?_eq_some_iff_append_eq.mpr
    (rfl : name ++ ' ' :: ("=>".toList ++ ' ' :: (first :: wanted ++ rest)) = _)
  have pointed := afterBlanks?_space (rfl : isBlank '=' = false) ['>']
    (' ' :: (first :: wanted ++ rest))
  have reached := afterBlanks?_space notBlank wanted rest
  unfold arrow?
  rw [named, Option.bind_eq_bind, Option.bind_some]
  exact Option.bind_eq_some_iff.mpr ⟨_, pointed, reached⟩

/-- A text is trimmed to itself if white space neither starts nor ends it. -/
theorem trim_of_ends {first last : Char} (firstNotBlank : isBlank first = false)
    (lastNotBlank : isBlank last = false) (text : Text) :
    trim (first :: (text ++ [last])) = first :: (text ++ [last]) := by
  have start : trimStart (first :: (text ++ [last])) = first :: (text ++ [last]) :=
    List.dropWhile_cons_of_neg (by simp [firstNotBlank])
  rw [trim, start, trimEnd, ← List.cons_append, List.reverse_concat,
    List.dropWhile_cons_of_neg (by simp [lastNotBlank]), ← List.reverse_concat,
    List.reverse_reverse]

/-! ### Barriers -/

/-- A start of a text that lacks a character ends before the character. -/
theorem prefix_of_barrier (barrier : Char) (rest : Text) {start text : Text} (absent : barrier ∉ start)
    (isStart : start <+: text ++ barrier :: rest) : start <+: text := by
  rcases List.prefix_or_prefix_of_prefix isStart (List.prefix_append text _) with inside | beyond
  · exact inside
  · obtain ⟨more, rfl⟩ := beyond
    obtain ⟨after, split⟩ := isStart
    rw [List.append_assoc, List.append_cancel_left_eq] at split
    cases more with
    | nil => simp
    | cons char more =>
      obtain ⟨rfl, _⟩ := List.cons.inj split
      simp at absent

/-- A region without the character that is asked for is passed over, if what ends it is neither
white space nor in the keyword. -/
theorem passed_of_barrier {answer? : Text → Option Value} {keyword region : Text} {next last : Char}
    (asks : AsksFor answer? keyword next) (absent : next ∉ region)
    (ends : region.getLast? = some last) (outside : last ∉ keyword)
    (notBlank : isBlank last = false) (rest : Text) : Passed answer? region rest := by
  intro ending isEnding nonempty
  cases answered : answer? (ending ++ rest) with
  | none => rfl
  | some found =>
    exfalso
    obtain ⟨blanks, more, split, blank⟩ := asks _ found answered
    have short : ending <+: keyword ++ blanks := by
      apply prefix_of_barrier _ _ (fun member => absent (isEnding.subset member))
      exact ⟨rest, split⟩
    have lastMember : last ∈ ending := by
      obtain ⟨before, rfl⟩ := isEnding
      rw [List.getLast?_append_of_ne_nil _ nonempty] at ends
      exact List.mem_of_getLast? ends
    rcases List.mem_append.mp (short.subset lastMember) with inKeyword | inBlanks
    · exact outside inKeyword
    · rw [blank last inBlanks] at notBlank
      cases notBlank

/-- The keyword neither stands in the region nor begins there. -/
def Clashes (keyword region : Text) : Prop :=
  ∀ ending ∈ region.tails, ending ≠ [] → ¬ keyword <+: ending ∧ ¬ ending <+: keyword

instance (keyword region : Text) : Decidable (Clashes keyword region) :=
  inferInstanceAs (Decidable (∀ ending ∈ region.tails, _))

theorem passed_of_clash {answer? : Text → Option Value} {keyword region : Text} {next : Char}
    (asks : AsksFor answer? keyword next) (clash : Clashes keyword region) (rest : Text) :
    Passed answer? region rest := by
  intro ending isEnding nonempty
  cases answered : answer? (ending ++ rest) with
  | none => rfl
  | some found =>
    exfalso
    obtain ⟨blanks, more, split, _⟩ := asks _ found answered
    have isKeyword : keyword <+: ending ++ rest := by
      rw [split, List.append_assoc]
      exact List.prefix_append keyword _
    obtain ⟨notInside, notAcross⟩ := clash ending ((List.mem_tails _ _).mpr isEnding) nonempty
    rcases List.prefix_or_prefix_of_prefix isKeyword (List.prefix_append ending rest) with
      inside | across
    · exact notInside inside
    · exact notAcross across

theorem Passed.append {answer? : Text → Option Value} {first second rest : Text}
    (one : Passed answer? first (second ++ rest)) (two : Passed answer? second rest) :
    Passed answer? (first ++ second) rest := by
  intro ending isEnding nonempty
  rcases List.suffix_or_suffix_of_suffix isEnding (List.suffix_append first second) with
    inside | beyond
  · exact two ending inside nonempty
  · obtain ⟨start, rfl⟩ := beyond
    by_cases empty : start = []
    · subst empty
      exact two second List.suffix_rfl nonempty
    · rw [List.append_assoc]
      apply one start _ empty
      obtain ⟨before, split⟩ := isEnding
      rw [← List.append_assoc, List.append_left_inj] at split
      exact ⟨before, split⟩

end GrokEvents.Filter
