/-
**The lines of a printed document.**

A document is printed in lines of printable ASCII characters. A line starts with a space, a bracket
or a brace, a quote, or a character of a word or number: never with a back-tick, whatever the texts
in the document are, since the line breaks of a text are escaped.

* `Tidy`: printable lines that start with no back-tick.
* `isPrintable_of_mem_escapedChar`: whatever character stands in a text, what is printed of it is
  printable.
* `tidy_printAt`: a value is printed in such lines.
-/

import Mathlib.Data.List.Pairwise
import GrokEvents.Proofs.Json.RoundTrip
import GrokEvents.Proofs.Text.Lines

namespace GrokEvents.Json

/-! ### Tidy texts -/

/-- A printable ASCII character. -/
def IsPrintable (char : Char) : Prop :=
  32 ≤ char.toNat ∧ char.toNat < 127

instance : DecidablePred IsPrintable :=
  fun _ => inferInstanceAs (Decidable (_ ∧ _))

/-- The characters of a closed text are tested one after another. -/
theorem isPrintable_of_all {text : Text}
    (all : (text.all fun char => decide (IsPrintable char)) = true) :
    ∀ char ∈ text, IsPrintable char := fun char member =>
  of_decide_eq_true (List.all_eq_true.mp all char member)

/-- A text of lines of printable characters, none of which starts with a back-tick. -/
structure Tidy (text : Text) : Prop where
  printable : ∀ char ∈ text, char = '\n' ∨ IsPrintable char
  quiet : ('\n' :: text).IsChain (Text.StartsNoLine '\x60')

theorem tidy_nil : Tidy [] :=
  ⟨nofun, .singleton _⟩

theorem Tidy.append {first second : Text} (start : Tidy first) (rest : Tidy second) :
    Tidy (first ++ second) := by
  refine ⟨fun char member => ?_, ?_⟩
  · rcases List.mem_append.mp member with inside | inside
    · exact start.printable char inside
    · exact rest.printable char inside
  · obtain ⟨noMark, chain⟩ := List.isChain_cons.mp rest.quiet
    rw [← List.cons_append]
    exact List.isChain_append.mpr ⟨start.quiet, chain, fun _ _ next here _ => noMark next here rfl⟩

/-- A line that does not start with a back-tick. -/
theorem tidy_of_line {text : Text} (printable : ∀ char ∈ text, IsPrintable char)
    (start : text.head? ≠ some '\x60') : Tidy text := by
  refine ⟨fun char member => .inr (printable char member), List.isChain_cons.mpr ⟨?_, ?_⟩⟩
  · rintro char first - rfl
    exact start first
  · refine List.Pairwise.isChain
      (List.pairwise_of_forall_mem_list fun before member char _ lineBreak => ?_)
    exact absurd (lineBreak ▸ printable before member) (by decide)

theorem tidy_singleton {char : Char} (printable : IsPrintable char) (other : char ≠ '\x60') :
    Tidy [char] :=
  tidy_of_line (List.forall_mem_singleton.mpr printable) fun same => other (Option.some.inj same)

/-- A text behind a character that is no back-tick. -/
theorem Tidy.cons {char : Char} {text : Text} (printable : IsPrintable char) (other : char ≠ '\x60')
    (rest : Tidy text) : Tidy (char :: text) :=
  (tidy_singleton printable other).append rest

theorem tidy_newline (level : Nat) : Tidy (newline level) := by
  have lineBreak : Tidy ['\n'] :=
    ⟨List.forall_mem_singleton.mpr (.inl rfl), by simp [Text.StartsNoLine]⟩
  refine lineBreak.append (tidy_of_line ?_ ?_)
  · intro char member
    rw [List.eq_of_mem_replicate member]
    decide
  · intro same
    have space := List.eq_of_mem_replicate (List.mem_of_head? same)
    cases space

/-! ### Texts -/

theorem isPrintable_of_isDigit {char : Char} (digit : char.isDigit = true) : IsPrintable char := by
  obtain ⟨above, below⟩ := Char.isDigit_iff_toNat.mp digit
  exact ⟨le_trans (by decide) above, lt_of_le_of_lt below (by decide)⟩

/-- What stands between printable characters is printable. -/
theorem isPrintable_of_le {first char last : Char} (above : first ≤ char) (below : char ≤ last)
    (low : IsPrintable first) (high : IsPrintable last) : IsPrintable char := by
  have above : first.toNat ≤ char.toNat := UInt32.le_iff_toNat_le.mp (Char.le_def.mp above)
  have below : char.toNat ≤ last.toNat := UInt32.le_iff_toNat_le.mp (Char.le_def.mp below)
  exact ⟨low.1.trans above, below.trans_lt high.2⟩

theorem isPrintable_of_isHexDigit {char : Char} (digit : Text.isHexDigit char = true) :
    IsPrintable char := by
  simp only [Text.isHexDigit, Bool.or_eq_true, Bool.and_eq_true, decide_eq_true_eq] at digit
  rcases digit with (decimal | ⟨above, below⟩) | ⟨above, below⟩
  · exact isPrintable_of_isDigit decimal
  · exact isPrintable_of_le above below (by decide) (by decide)
  · exact isPrintable_of_le above below (by decide) (by decide)

theorem isPrintable_of_mem_unitEscape {unit : Nat} (fits : unit < 0x10000) :
    ∀ char ∈ unitEscape unit, IsPrintable char := by
  obtain ⟨-, digits, -⟩ := Text.hexadecimal_spec (by decide : 0 < 4) fits
  rw [unitEscape, List.forall_mem_cons, List.forall_mem_cons]
  exact ⟨by decide, by decide, fun char member => isPrintable_of_isHexDigit (digits char member)⟩

/-- The escape of a character is printable, whatever the character is. -/
theorem isPrintable_of_mem_escapedChar (char : Char) :
    ∀ shown ∈ escapedChar char, IsPrintable shown := by
  unfold escapedChar
  split_ifs with _ _ _ _ _ _ _ printable basic
  iterate 7 exact isPrintable_of_all (by decide)
  · simpa [IsPrintable] using printable
  · exact isPrintable_of_mem_unitEscape basic
  · have point := toNat_spec char
    exact List.forall_mem_append.mpr
      ⟨isPrintable_of_mem_unitEscape (by omega), isPrintable_of_mem_unitEscape (by omega)⟩

theorem tidy_printText (text : Text) : Tidy (printText text) := by
  have start : (printText text).head? = some '"' := rfl
  refine tidy_of_line ?_ (by rw [start]; decide)
  rw [printText, List.forall_mem_append, List.forall_mem_cons]
  refine ⟨⟨by decide, fun shown member => ?_⟩, List.forall_mem_singleton.mpr (by decide)⟩
  obtain ⟨char, -, inside⟩ := List.mem_flatMap.mp member
  exact isPrintable_of_mem_escapedChar char shown inside

theorem tidy_ofInt (value : Int) : Tidy (Text.ofInt value) := by
  have digits : Tidy (Text.ofNat value.natAbs) := by
    have digit {char : Char} (member : char ∈ Text.ofNat value.natAbs) : char.isDigit = true :=
      Text.isDigit_of_mem_ofNat member
    refine tidy_of_line (fun char member => isPrintable_of_isDigit (digit member)) fun same => ?_
    cases digit (List.mem_of_head? same)
  rw [Text.ofInt_eq]
  split
  · exact digits.cons (by decide) (by decide)
  · exact digits

/-! ### Values -/

theorem tidy_printItems {items : List Json} (each : ∀ item ∈ items, ∀ level, Tidy (printAt level item))
    (level : Nat) : Tidy (printItems level items) := by
  induction items with
  | nil => exact tidy_nil
  | cons item items ih =>
    obtain ⟨first, others⟩ := List.forall_mem_cons.mp each
    have comma : Tidy (',' :: newline level) := (tidy_newline level).cons (by decide) (by decide)
    rw [printItems]
    exact (comma.append (first level)).append (ih others)

theorem tidy_valueOfMember {value : Text} (tidy : Tidy value) : Tidy (':' :: ' ' :: value) :=
  (tidy.cons (by decide) (by decide)).cons (by decide) (by decide)

theorem tidy_printMembers {members : List (Text × Json)}
    (each : ∀ member ∈ members, ∀ level, Tidy (printAt level member.2)) (level : Nat) :
    Tidy (printMembers level members) := by
  induction members with
  | nil => exact tidy_nil
  | cons member members ih =>
    obtain ⟨first, others⟩ := List.forall_mem_cons.mp each
    have comma : Tidy (',' :: newline level) := (tidy_newline level).cons (by decide) (by decide)
    rw [printMembers]
    exact ((comma.append (tidy_printText _)).append (tidy_valueOfMember (first level))).append
      (ih others)

/-- A value is printed in tidy lines. The induction follows the value. -/
theorem tidy_printAt {value : Json} (exact : Exact value) (level : Nat) :
    Tidy (printAt level value) := by
  induction exact generalizing level with
  | null =>
    rw [printAt]
    exact tidy_of_line (isPrintable_of_all (by decide)) (by decide)
  | bool value =>
    rw [printAt]
    cases value <;> exact tidy_of_line (isPrintable_of_all (by decide)) (by decide)
  | int value =>
    rw [printAt]
    exact tidy_ofInt value
  | text value =>
    rw [printAt]
    exact tidy_printText value
  | @array items _ ih =>
    cases items with
    | nil =>
      rw [printAt]
      exact tidy_of_line (isPrintable_of_all (by decide)) (by decide)
    | cons first items =>
      obtain ⟨first, others⟩ := List.forall_mem_cons.mp ih
      have opening : Tidy ('[' :: newline (level + 1)) :=
        (tidy_newline _).cons (by decide) (by decide)
      have closing : Tidy [']'] := tidy_singleton (by decide) (by decide)
      rw [printAt]
      exact (((opening.append (first _)).append (tidy_printItems others _)).append
        (tidy_newline level)).append closing
  | @object members _ _ ih =>
    cases members with
    | nil =>
      rw [printAt]
      exact tidy_of_line (isPrintable_of_all (by decide)) (by decide)
    | cons first members =>
      obtain ⟨first, others⟩ := List.forall_mem_cons.mp ih
      have opening : Tidy ('{' :: newline (level + 1)) :=
        (tidy_newline _).cons (by decide) (by decide)
      have closing : Tidy ['}'] := tidy_singleton (by decide) (by decide)
      rw [printAt]
      exact ((((opening.append (tidy_printText _)).append (tidy_valueOfMember (first _))).append
        (tidy_printMembers others _)).append (tidy_newline level)).append closing

/-! ### Lines -/

/-- The lines of a tidy text are of printable characters, and none of them starts with a back-tick. -/
theorem Tidy.lines {text : Text} (tidy : Tidy text) : ∀ line ∈ Text.splitOn '\n' text,
    (∀ char ∈ line, IsPrintable char) ∧ line.head? ≠ some '\x60' := by
  intro line among
  refine ⟨fun char member => ?_, Text.head?_ne_of_mem_splitOn tidy.quiet among⟩
  obtain ⟨inside, noBreak⟩ := Text.mem_of_mem_splitOn among member
  exact (tidy.printable char inside).resolve_left noBreak

end GrokEvents.Json
