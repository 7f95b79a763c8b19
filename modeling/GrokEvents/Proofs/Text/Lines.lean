/-
**Lines.**

A text is its lines with line breaks between them. The first line that is a mark tells the lines
before it from those behind it, and a character that follows no line break starts no line but the
first.

* `join_splitOn`, `splitOn_append_cons`: the pieces of a text, and those before and behind a
  separator.
* `splitOn_flatten_ended`: the pieces of texts that each end with the separator.
* `upTo?_append_cons`, `exists_upTo?`: the first line that is a mark.
* `head?_ne_of_mem_splitOn`: what starts no line.
-/

import GrokEvents.Text.Basic
import Mathlib.Data.List.Chain

namespace GrokEvents.Text

/-! ### Pieces -/

section Pieces

variable {separator : Char} {text : Text}

theorem splitOn_cons_of_ne {char : Char} (other : char ≠ separator) {first : Text} {others : List Text}
    (pieces : splitOn separator text = first :: others) :
    splitOn separator (char :: text) = (char :: first) :: others := by
  rw [splitOn, if_neg other, pieces]

theorem splitOn_eq_splitOn (separator : Char) (text : Text) :
    splitOn separator text = List.splitOn separator text := by
  induction text with
  | nil => exact (List.splitOn_nil separator).symm
  | cons char text ih =>
    obtain ⟨first, others, pieces⟩ := List.exists_cons_of_ne_nil (List.splitOn_ne_nil separator text)
    rw [List.splitOn_cons_eq_if_modifyHead, pieces]
    by_cases same : char = separator
    · rw [splitOn, if_pos same, ih, pieces, if_pos (beq_iff_eq.mpr same)]
    · rw [splitOn_cons_of_ne same (ih.trans pieces), if_neg (mt beq_iff_eq.mp same)]
      rfl

theorem exists_splitOn (separator : Char) (text : Text) :
    ∃ first others, splitOn separator text = first :: others :=
  List.exists_cons_of_ne_nil (by rw [splitOn_eq_splitOn]; exact List.splitOn_ne_nil separator text)

theorem join_eq_intercalate (separator : Text) (pieces : List Text) :
    join separator pieces = separator.intercalate pieces := by
  induction pieces with
  | nil => rfl
  | cons first rest ih =>
    cases rest with
    | nil => rw [join, List.intercalate_singleton]
    | cons second rest =>
      rw [join, ih, List.intercalate_cons_cons]
      intro same
      cases same

/-- The pieces of a text with the separator between them are the text. -/
theorem join_splitOn (separator : Char) (text : Text) :
    join [separator] (splitOn separator text) = text := by
  rw [join_eq_intercalate, splitOn_eq_splitOn, List.intercalate_splitOn]

/-- The pieces before a separator and those behind it. -/
theorem splitOn_append_cons (separator : Char) (first second : Text) :
    splitOn separator (first ++ separator :: second) =
      splitOn separator first ++ splitOn separator second := by
  simp only [splitOn_eq_splitOn, List.splitOn_append_cons_self]

/-- A text without the separator is one piece. -/
theorem splitOn_of_not_mem (absent : separator ∉ text) : splitOn separator text = [text] := by
  rw [splitOn_eq_splitOn, List.splitOn_eq_singleton absent]

/-- The pieces of texts that each end with the separator, and of what follows them. -/
theorem splitOn_flatten_ended (texts : List Text) (behind : Text) :
    splitOn separator ((texts.map (· ++ [separator])).flatten ++ behind) =
      texts.flatMap (splitOn separator) ++ splitOn separator behind := by
  induction texts with
  | nil => rfl
  | cons first texts ih =>
    have split : ((first :: texts).map (· ++ [separator])).flatten ++ behind =
        first ++ separator :: ((texts.map (· ++ [separator])).flatten ++ behind) := by
      simp
    rw [split, splitOn_append_cons, ih, List.flatMap_cons, List.append_assoc]

/-- The characters of a piece are characters of the text other than the separator. -/
theorem mem_of_mem_splitOn {piece : Text} (among : piece ∈ splitOn separator text) {char : Char}
    (member : char ∈ piece) : char ∈ text ∧ char ≠ separator := by
  induction text generalizing piece with
  | nil =>
    rw [List.mem_singleton.mp among] at member
    cases member
  | cons first text ih =>
    by_cases same : first = separator
    · rw [splitOn, if_pos same] at among
      rcases List.mem_cons.mp among with rfl | later
      · cases member
      · exact (ih later member).imp_left (List.mem_cons_of_mem _)
    · obtain ⟨start, others, pieces⟩ := exists_splitOn separator text
      rw [splitOn_cons_of_ne same pieces] at among
      rw [pieces] at ih
      rcases List.mem_cons.mp among with rfl | later
      · rcases List.mem_cons.mp member with rfl | inside
        · exact ⟨List.mem_cons_self, same⟩
        · exact (ih List.mem_cons_self inside).imp_left (List.mem_cons_of_mem _)
      · exact (ih (List.mem_cons_of_mem _ later) member).imp_left (List.mem_cons_of_mem _)

end Pieces

/-! ### Marked lines -/

/-- The lines before the first one that is the mark, and the lines behind it. -/
def upTo? (mark : Text) : List Text → Option (List Text × List Text)
  | [] => none
  | line :: lines =>
    if line = mark then some ([], lines)
    else (upTo? mark lines).map fun (before, behind) => (line :: before, behind)

theorem upTo?_append_cons {mark : Text} {before : List Text} (unmarked : mark ∉ before)
    (behind : List Text) : upTo? mark (before ++ mark :: behind) = some (before, behind) := by
  induction before with
  | nil => exact if_pos rfl
  | cons line before ih =>
    obtain ⟨different, others⟩ := List.ne_and_not_mem_of_not_mem_cons unmarked
    rw [List.cons_append, upTo?, if_neg different.symm, ih others]
    rfl

/-- Of lines with the mark behind them, those before the first mark are some of the first ones. -/
theorem exists_upTo? (mark : Text) (lines more : List Text) : ∃ before behind,
    upTo? mark (lines ++ mark :: more) = some (before, behind) ∧ before <+: lines := by
  by_cases marked : mark ∈ lines
  · obtain ⟨before, behind, rfl, unmarked⟩ := List.eq_append_cons_of_mem marked
    rw [List.append_assoc, List.cons_append]
    exact ⟨before, _, upTo?_append_cons unmarked _, List.prefix_append _ _⟩
  · exact ⟨lines, more, upTo?_append_cons marked more, List.prefix_rfl⟩

/-! ### Starts of lines -/

section Starts

variable {mark : Char}

/-- A character may stand behind another one without starting a line by the mark. -/
def StartsNoLine (mark before char : Char) : Prop :=
  before = '\n' → char ≠ mark

/-- The first line continues the line of the character that stands before the text; the others start
behind a line break of the text. -/
theorem exists_splitOn_of_isChain {before : Char} {text : Text}
    (chain : (before :: text).IsChain (StartsNoLine mark)) : ∃ first others,
      splitOn '\n' text = first :: others ∧ (before = '\n' → first.head? ≠ some mark) ∧
        ∀ line ∈ others, line.head? ≠ some mark := by
  induction text generalizing before with
  | nil => exact ⟨[], [], rfl, fun _ => nofun, nofun⟩
  | cons char text ih =>
    obtain ⟨starts, chain⟩ := List.isChain_cons_cons.mp chain
    obtain ⟨first, others, lines, first_start, others_start⟩ := ih chain
    by_cases lineBreak : char = '\n'
    · refine ⟨[], first :: others, ?_, fun _ => nofun, List.forall_mem_cons.mpr ⟨?_, others_start⟩⟩
      · rw [splitOn, if_pos lineBreak, lines]
      · exact first_start lineBreak
    · exact ⟨char :: first, others, splitOn_cons_of_ne lineBreak lines,
        fun behind same => starts behind (Option.some.inj same), others_start⟩

/-- Where no character that follows a line break is the mark, no line starts with it. -/
theorem head?_ne_of_mem_splitOn {text line : Text}
    (chain : ('\n' :: text).IsChain (StartsNoLine mark)) (among : line ∈ splitOn '\n' text) :
    line.head? ≠ some mark := by
  obtain ⟨first, others, lines, first_start, others_start⟩ := exists_splitOn_of_isChain chain
  rw [lines] at among
  rcases List.mem_cons.mp among with rfl | later
  · exact first_start rfl
  · exact others_start line later

end Starts

end GrokEvents.Text
