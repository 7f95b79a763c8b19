/-
**Escaped patterns.**

A pattern is written between double quotes with a backslash before each of its backslashes and
quotes.

* `escapedUpToQuote?_escape`: the closing quote of an escaped pattern is the first one that ends it.
* `escape_guarded`: no quote of an escaped pattern stands without a backslash before it.
* `infix_of_infix_escape`: a text without backslashes and quotes that occurs in an escaped pattern
  occurs in the pattern.
-/

import Mathlib.Data.List.Chain
import GrokEvents.Proofs.Filter.Balance
import GrokEvents.Filter.Clause

namespace GrokEvents.Filter

open Text

/-- A character of a pattern as it is written between double quotes. -/
def escapeChar (char : Char) : Text :=
  if char = '\\' ∨ char = '"' then ['\\', char] else [char]

/-- A pattern as it is written between double quotes. -/
def escape (pattern : Text) : Text :=
  pattern.flatMap escapeChar

theorem escape_cons (char : Char) (rest : Text) :
    escape (char :: rest) = escapeChar char ++ escape rest :=
  List.flatMap_cons

theorem escapeChar_of_plain {char : Char} (notBackslash : char ≠ '\\') (notQuote : char ≠ '"') :
    escapeChar char = [char] :=
  if_neg (not_or.mpr ⟨notBackslash, notQuote⟩)

theorem escape_ne_nil {pattern : Text} (nonempty : pattern ≠ []) : escape pattern ≠ [] := by
  cases pattern with
  | nil => exact absurd rfl nonempty
  | cons char rest =>
    rw [escape_cons, escapeChar]
    split <;> simp

/-! ### The quotes of an escaped pattern -/

theorem escapedUpToQuote?_escape (pattern rest : Text) :
    escapedUpToQuote? (escape pattern ++ '"' :: rest) = some (escape pattern) := by
  have closing : escapedUpToQuote? ('"' :: rest) = some [] := by
    cases rest <;> simp [escapedUpToQuote?]
  -- What follows is never empty, so that the reader always looks at two characters.
  have plain {char : Char} {text : Text} (notBackslash : char ≠ '\\') (notQuote : char ≠ '"')
      (nonempty : text ≠ []) :
      escapedUpToQuote? (char :: text) = (escapedUpToQuote? text).map (char :: ·) := by
    cases text with
    | nil => exact absurd rfl nonempty
    | cons next text => simp [escapedUpToQuote?, notBackslash, notQuote]
  induction pattern with
  | nil => exact closing
  | cons char text ih =>
    rw [escape_cons, List.append_assoc]
    by_cases backslash : char = '\\'
    · subst backslash
      simp [escapeChar, escapedUpToQuote?, ih]
    · by_cases quote : char = '"'
      · subst quote
        simp [escapeChar, escapedUpToQuote?, ih]
      · rw [escapeChar_of_plain backslash quote, List.singleton_append,
          plain backslash quote (by simp), ih]
        rfl

/-- Whether a character may stand before another in an escaped pattern. -/
def Guards (first second : Char) : Prop :=
  second = '"' → first = '\\'

theorem escape_guarded (pattern : Text) : (escape pattern).IsChain Guards := by
  have head (text : Text) : ∀ char ∈ (escape text).head?, char ≠ '"' := by
    cases text with
    | nil => simp [escape]
    | cons char rest =>
      rw [escape_cons, escapeChar]
      split
      · simp
      · rename_i plain
        simpa using (not_or.mp plain).2
  induction pattern with
  | nil => exact List.isChain_nil
  | cons char rest ih =>
    rw [escape_cons, List.isChain_append]
    refine ⟨?_, ih, fun last _ first isHead quote => absurd quote (head rest first isHead)⟩
    rw [escapeChar]
    split <;> simp [Guards]

/-- A quote inside an escaped pattern has a backslash before it. -/
theorem guard_of_infix_escape {char : Char} {pattern : Text}
    (inside : [char, '"'] <:+: escape pattern) : char = '\\' := by
  have chain := List.IsChain.infix (escape_guarded pattern) inside
  exact (List.isChain_pair.mp chain) rfl

/-! ### What occurs in an escaped pattern -/

theorem depthAfter?_escape (depth : Nat) (pattern : Text) :
    depthAfter? depth (escape pattern) = depthAfter? depth pattern := by
  induction pattern generalizing depth with
  | nil => rfl
  | cons char rest ih =>
    rw [escape_cons, depthAfter?_append, depthAfter?_cons]
    have step : depthAfter? depth (escapeChar char) = braceStep? depth char := by
      rw [escapeChar]
      split
      · rename_i special
        rcases special with rfl | rfl <;> rfl
      · rw [depthAfter?_cons]
        exact Option.bind_fun_some _
    rw [step]
    exact congrArg _ (funext ih)

theorem Balanced.escape {pattern : Text} (balanced : Balanced pattern) :
    Balanced (escape pattern) := by
  rw [balanced_iff, depthAfter?_escape]
  exact balanced.depthAfter? 0

theorem prefix_of_prefix_escape {text pattern : Text} (noBackslash : '\\' ∉ text)
    (found : text <+: escape pattern) : text <+: pattern := by
  induction pattern generalizing text with
  | nil => exact found
  | cons char rest ih =>
    cases text with
    | nil => exact List.nil_prefix
    | cons first text =>
      rw [List.mem_cons, not_or] at noBackslash
      rw [escape_cons, escapeChar] at found
      split at found
      · obtain ⟨same, _⟩ := List.cons_prefix_cons.mp found
        exact absurd same.symm noBackslash.1
      · rw [List.singleton_append] at found
        obtain ⟨rfl, tail⟩ := List.cons_prefix_cons.mp found
        exact List.cons_prefix_cons.mpr ⟨rfl, ih noBackslash.2 tail⟩

theorem infix_of_infix_escape {text pattern : Text} (noBackslash : '\\' ∉ text)
    (noQuote : '"' ∉ text) (found : text <:+: escape pattern) : text <:+: pattern := by
  induction pattern with
  | nil => exact found
  | cons char rest ih =>
    cases text with
    | nil => exact List.nil_infix
    | cons first text =>
      rw [escape_cons, escapeChar] at found
      split at found
      · rename_i special
        rcases List.infix_cons_iff.mp found with atStart | found
        · obtain ⟨same, _⟩ := List.cons_prefix_cons.mp atStart
          exact absurd (same ▸ List.mem_cons_self) noBackslash
        · rcases List.infix_cons_iff.mp found with atStart | found
          · obtain ⟨same, _⟩ := List.cons_prefix_cons.mp atStart
            rcases special with rfl | rfl
            · exact absurd (same ▸ List.mem_cons_self) noBackslash
            · exact absurd (same ▸ List.mem_cons_self) noQuote
          · exact List.infix_cons (ih found)
      · rename_i plain
        rcases List.infix_cons_iff.mp found with atStart | found
        · apply List.IsPrefix.isInfix
          apply prefix_of_prefix_escape noBackslash
          rw [escape_cons, escapeChar, if_neg plain]
          exact atStart
        · exact List.infix_cons (ih found)

end GrokEvents.Filter
