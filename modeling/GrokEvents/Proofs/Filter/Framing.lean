/-
**Only the filter counts.**

A run reads its configuration through the body of the filter section and its line without the white
space around it. What stands before the section, behind the brace that closes it, or around either
text reaches neither the fields nor the compiler.

* `trim_pad`, `trim_around`: white space around a text, and a text around what trimming does not
  reach.
* `section?_of_first`: a balanced body is found behind the first place that opens a section.
* `run_of_filter`: the runs that a filter stands for.
-/

import GrokEvents.Filter.Fields
import GrokEvents.Proofs.Filter.Nesting

namespace GrokEvents.Filter

open Grok Text

/-! ### Trimming -/

/-- White space around a text is trimmed off, whatever the text has at its own ends. -/
theorem trim_pad {before behind : Text} (blankBefore : ∀ char ∈ before, isBlank char = true)
    (blankBehind : ∀ char ∈ behind, isBlank char = true) (text : Text) :
    trim (before ++ text ++ behind) = trim text := by
  have ending (part : Text) : trimEnd (part ++ behind) = trimEnd part := by
    rw [trimEnd, trimEnd, List.reverse_append, List.dropWhile_append_of_pos]
    intro char member
    exact blankBehind char (List.mem_reverse.mp member)
  rw [trim, trimStart, List.append_assoc, List.dropWhile_append_of_pos blankBefore,
    List.dropWhile_append]
  split
  · rename_i blank
    -- Nothing but white space is left, so that nothing is left in the end.
    have nothing : behind.dropWhile isBlank = [] := List.dropWhile_eq_nil_iff.mpr blankBehind
    rw [nothing, trim, trimStart, List.isEmpty_iff.mp blank]
  · exact ending _

/-- Trimming stops at what is not white space. -/
theorem trimStart_append {char : Char} (visible : isBlank char = false) (before rest : Text) :
    trimStart (before ++ char :: rest) = trimStart before ++ char :: rest := by
  have stops : (char :: rest).dropWhile isBlank = char :: rest :=
    List.dropWhile_cons_of_neg (Bool.eq_false_iff.mp visible)
  rw [trimStart, List.dropWhile_append, stops, trimStart]
  split
  · rename_i blank
    rw [List.isEmpty_iff.mp blank, List.nil_append]
  · rfl

theorem trimEnd_append {char : Char} (visible : isBlank char = false) (text behind : Text) :
    trimEnd (text ++ char :: behind) = text ++ char :: trimEnd behind := by
  have split : (text ++ char :: behind).reverse = behind.reverse ++ char :: text.reverse := by
    simp
  have stops := trimStart_append visible behind.reverse text.reverse
  rw [trimStart, trimStart] at stops
  rw [trimEnd, split, stops, trimEnd, List.reverse_append, List.reverse_cons, List.reverse_reverse,
    List.append_assoc, List.singleton_append]

/-- Around a text that white space neither starts nor ends, only what surrounds it is trimmed. -/
theorem trim_around {first last : Char} (firstVisible : isBlank first = false)
    (lastVisible : isBlank last = false) (before inside behind : Text) :
    trim (before ++ first :: (inside ++ last :: behind)) =
      trimStart before ++ first :: (inside ++ last :: trimEnd behind) := by
  rw [trim, trimStart_append firstVisible]
  have regroup (part : Text) : trimStart before ++ first :: (inside ++ last :: part) =
      (trimStart before ++ first :: inside) ++ last :: part := by
    simp
  rw [regroup, regroup, trimEnd_append lastVisible]

/-! ### Sections by their place -/

theorem openingAt?_of_blanks {blanks : Text} (blank : ∀ char ∈ blanks, isBlank char = true)
    (keyword rest : Text) : openingAt? keyword (keyword ++ (blanks ++ '{' :: rest)) = some rest :=
  openingAt?_eq_some_iff.mpr ⟨blanks, rfl, blank⟩

/-- A region that opens no section before a brace opens none, whatever follows the brace. -/
theorem passed_openingAt? {keyword region opening : Text} (noBrace : '{' ∉ keyword)
    (passed : Passed (openingAt? keyword) region (opening ++ ['{'])) (rest : Text) :
    Passed (openingAt? keyword) region (opening ++ '{' :: rest) := by
  intro ending isEnding nonempty
  cases answered : openingAt? keyword (ending ++ (opening ++ '{' :: rest)) with
  | none => rfl
  | some opened =>
    exfalso
    obtain ⟨blanks, more, split, blank⟩ := asksFor_openingAt? keyword _ opened answered
    have absent : '{' ∉ keyword ++ blanks := by
      rw [List.mem_append, not_or]
      refine ⟨noBrace, fun member => ?_⟩
      cases blank '{' member
    rw [← List.append_assoc] at split
    obtain ⟨between, whole⟩ := prefix_of_barrier '{' rest absent ⟨_, split.symm⟩
    have unanswered := passed ending isEnding nonempty
    rw [← List.append_assoc, ← whole, List.append_assoc, List.append_assoc] at unanswered
    rw [← whole, List.append_assoc, List.append_cancel_left_eq] at split
    have opens : ∃ behind, between ++ ['{'] = '{' :: behind := by
      cases between with
      | nil => exact ⟨[], rfl⟩
      | cons char between =>
        obtain ⟨rfl, -⟩ := List.cons.inj split
        exact ⟨between ++ ['{'], rfl⟩
    obtain ⟨behind, isBehind⟩ := opens
    rw [isBehind, openingAt?_of_blanks blank] at unanswered
    cases unanswered

/-- A balanced body is found behind the first place that opens a section. -/
theorem section?_of_first {keyword before blanks body after text : Text}
    (written : text = before ++ (keyword ++ (blanks ++ '{' :: (body ++ '}' :: after))))
    (first : Passed (openingAt? keyword) before
      (keyword ++ (blanks ++ '{' :: (body ++ '}' :: after))))
    (blank : ∀ char ∈ blanks, isBlank char = true) (balanced : Balanced body) : section? keyword text =
      some body := by
  rw [written, section?, afterOpening?_eq_atFirst?, atFirst?_of_passed first,
    atFirst?_of_answer (openingAt?_of_blanks blank keyword _), Option.bind_some,
    body?_of_balanced balanced]

/-! ### Runs -/

/-- The body of the first filter section of a configuration, if its braces balance. -/
def filterOf? (configuration : Text) : Option Text := section? "filter".toList (trim configuration)

/-- A run depends on its line once it is trimmed, and on its configuration by its filter. -/
theorem run_congr [Expr.Engine] {log otherLog configuration otherConfiguration : Text}
    (lines : trim log = trim otherLog)
    (filters : filterOf? configuration = filterOf? otherConfiguration)
    (clock : Time.Moment) (compiler : Compiler) :
    run clock compiler log configuration = run clock compiler otherLog otherConfiguration := by
  unfold filterOf? at filters
  rw [run, run, plan?, plan?, filters, lines]

/-- The filter of a configuration that is written around it. -/
theorem filterOf?_around {before blanks filter after : Text}
    (blank : ∀ char ∈ blanks, isBlank char = true) (balanced : Balanced filter)
    (first : Passed (openingAt? "filter".toList) before ("filter".toList ++ blanks ++ ['{'])) :
    filterOf? (before ++ "filter".toList ++ blanks ++ '{' :: (filter ++ '}' :: after)) =
      some filter := by
  have visible : isBlank 'f' = false ∧ isBlank '}' = false := ⟨rfl, rfl⟩
  have written (start ending : Text) :
      start ++ "filter".toList ++ blanks ++ '{' :: (filter ++ '}' :: ending) =
        start ++ 'f' :: (("ilter".toList ++ blanks ++ '{' :: filter) ++ '}' :: ending) := by
    simp
  have kept : Passed (openingAt? "filter".toList) (trimStart before)
      ("filter".toList ++ blanks ++ ['{']) :=
    fun ending isEnding => first ending (isEnding.trans (List.dropWhile_suffix _))
  have firstLeft := passed_openingAt? (by decide) kept (filter ++ '}' :: trimEnd after)
  rw [List.append_assoc] at firstLeft
  refine section?_of_first ?_ firstLeft blank balanced
  rw [written, trim_around visible.1 visible.2, ← written, List.append_assoc, List.append_assoc]

/-- **Only the filter counts.** Where a configuration has a filter section, a run of it gives what a run
of that section alone gives, and leaves the same compiler and the same notices. White space around the
line and the configuration does not show, nor does any text around the section, as long as it does not
open a filter of its own before it. -/
theorem run_of_filter [Expr.Engine] (clock : Time.Moment) (compiler : Compiler) (log : Text)
    {configuration filter : Text} (found : filterOf? configuration = some filter) :
    run clock compiler log configuration =
        run clock compiler log ("filter \x7b".toList ++ filter ++ ['}']) ∧
      (∀ one two three four : Text, (∀ char ∈ one ++ two ++ three ++ four, isBlank char = true) →
        run clock compiler (one ++ log ++ two) (three ++ configuration ++ four) =
          run clock compiler log configuration) ∧
      ∀ before blanks after : Text, (∀ char ∈ blanks, isBlank char = true) →
        Passed (openingAt? "filter".toList) before ("filter".toList ++ blanks ++ ['{']) →
        run clock compiler log
            (before ++ "filter".toList ++ blanks ++ '{' :: (filter ++ '}' :: after)) =
          run clock compiler log configuration := by
  have balanced := balanced_of_section? found
  refine ⟨?alone, ?padded, ?surrounded⟩
  case alone =>
    apply run_congr rfl
    have space : ∀ char ∈ [' '], isBlank char = true := List.forall_mem_singleton.mpr rfl
    have first : Passed (openingAt? "filter".toList) [] ("filter".toList ++ [' '] ++ ['{']) :=
      fun ending isEnding nonempty => absurd (List.suffix_nil.mp isEnding) nonempty
    have written : "filter \x7b".toList ++ filter ++ ['}'] =
        [] ++ "filter".toList ++ [' '] ++ '{' :: (filter ++ ['}']) := by
      simp
    rw [found, written, filterOf?_around space balanced first]
  case padded =>
    intro one two three four blank
    simp only [List.forall_mem_append] at blank
    obtain ⟨⟨⟨isOne, isTwo⟩, isThree⟩, isFour⟩ := blank
    apply run_congr (trim_pad isOne isTwo log)
    rw [filterOf?, filterOf?, trim_pad isThree isFour]
  case surrounded =>
    intro before blanks after blank first
    apply run_congr rfl
    rw [found, filterOf?_around blank balanced first]

/-- A filter whose pattern holds what looks like the opening of another filter. -/
def nestingFilter : Text :=
  " grok \x7b match => \x7b \"message\" => \"%\x7bWORD:word\x7d filter \x7b2\x7dx\" \x7d \x7d ".toList

/-- The same filter between other sections, in front of a second filter. -/
def crowdedConfiguration : Text :=
  "\n# no filter: \x7d input \x7b \x7d filter\t\x7b".toList ++ nestingFilter ++
    "\x7d output \x7b filter \x7b".toList

/-- A moment to run it at. -/
def crowdedClock : Time.Moment :=
  ⟨⟨2026, 1, 1⟩, ⟨0, 0, 0, 0⟩, none⟩

/-- A line for that filter. -/
def crowdedLine : Text :=
  "a filter  x".toList

/-- Of the sections of a crowded configuration the first filter counts, to the brace that closes it. -/
theorem run_of_filter_crowded :
    filterOf? crowdedConfiguration = some nestingFilter ∧
    (run crowdedClock .default crowdedLine crowdedConfiguration).value.1.toOption =
      some (some [("word".toList, "a".toList)]) ∧
    run crowdedClock .default crowdedLine crowdedConfiguration =
      run crowdedClock .default crowdedLine ("filter \x7b".toList ++ nestingFilter ++ ['}']) ∧
    run crowdedClock .default (" ".toList ++ crowdedLine ++ "\n".toList)
        ("\t".toList ++ crowdedConfiguration ++ "  ".toList) =
      run crowdedClock .default crowdedLine crowdedConfiguration ∧
    run crowdedClock .default crowdedLine
        ("no filter: \x7d ".toList ++ "filter".toList ++ [] ++ '{' :: (nestingFilter ++ '}' :: [])) =
      run crowdedClock .default crowdedLine crowdedConfiguration := by
  have found : filterOf? crowdedConfiguration = some nestingFilter := by
    decide +kernel
  have fields : (run crowdedClock .default crowdedLine crowdedConfiguration).value.1.toOption =
      some (some [("word".toList, "a".toList)]) := by
    decide +kernel
  have first : Passed (openingAt? "filter".toList) "no filter: \x7d ".toList
      ("filter".toList ++ [] ++ ['{']) := by
    intro ending isEnding
    have unopened : ∀ ending ∈ "no filter: \x7d ".toList.tails, ending ≠ [] →
        openingAt? "filter".toList (ending ++ ("filter".toList ++ [] ++ ['{'])) = none := by
      decide +kernel
    exact unopened ending ((List.mem_tails _ _).mpr isEnding)
  have blank : (" ".toList ++ "\n".toList ++ "\t".toList ++ "  ".toList).all isBlank = true := by
    decide
  obtain ⟨alone, padded, surrounded⟩ := run_of_filter crowdedClock .default crowdedLine found
  exact ⟨found, fields, alone, padded _ _ _ _ (List.all_eq_true.mp blank),
    surrounded _ [] [] nofun first⟩

end GrokEvents.Filter
