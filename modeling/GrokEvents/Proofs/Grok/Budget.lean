/-
**Splitting the budget.**

The passes of an expansion may be made in two goes. A pass that finds a tagged token adds the
parenthesis of its group to the text and takes none away, so that a pass which leaves the text as it
is has declared nothing: an expansion that has come to rest may be taken up again at any time, with
nothing to add.

* `count_opening_substitute`: a pass adds a parenthesis for each field that it declares.
* `expandFrom_add`: the passes of one budget, then those of another.
* `expandFrom_behind`: what is found in the passes stands behind what was found before.
* `expand_add`: the expansion within a budget that is split in two.
-/

import GrokEvents.Proofs.Entries
import GrokEvents.Proofs.Grok.Sealed

namespace GrokEvents.Grok

variable {registry : Registry}

/-! ### Passes that declare a field -/

theorem Token.count_opening_spell {token : Token} (wellFormed : token.WellFormed) :
    token.spell.count '(' = 0 := by
  rw [List.count_eq_zero]
  intro member
  rcases List.mem_cons.mp member with percent | inTail
  · cases percent
  · cases continuesToken_of_mem_tail wellFormed inTail

/-- What stands in the place of a token has a parenthesis for the field that the token declares. -/
theorem Token.length_declared_le (token : Token) (fragment : Text) :
    token.declared.length ≤ (token.wrap fragment).count '(' := by
  rw [declared, wrap, opening]
  cases token.tag with
  | none => exact Nat.zero_le _
  | some tag =>
    have opens : '(' ∈ "(?P<".toList ++ tag.field ++ ['>'] := by simp
    rw [List.count_append, List.count_append]
    have := List.count_pos_iff.mpr opens
    simp only [Option.map_some, Option.toList_some, Option.getD_some, List.length_singleton]
    omega

/-- **A pass adds a parenthesis for each field that it declares.** The characters between the tokens
stay, and a token has no parenthesis to lose. -/
theorem count_opening_substitute (registry : Registry) (text : Text) :
    text.count '(' + ((pieces text).filterMap Piece.field?).length ≤
      (substitute registry text).count '(' := by
  induction text using pieces_induction with
  | nil => exact Nat.le_refl 0
  | token token rest wellFormed ih =>
    rw [pieces_spell_append wellFormed, substitute_spell_append registry wellFormed,
      filterMap_field?_token, List.count_append, List.count_append, List.length_append,
      Token.count_opening_spell wellFormed]
    have := token.length_declared_le (registry.fragment token.name)
    omega
  | literal char rest plain ih =>
    rw [substitute_literal registry plain, pieces_literal plain, filterMap_field?_literal,
      List.count_cons, List.count_cons]
    omega

/-- A pass that leaves a text as it is declares nothing, and leaves all that was found before. -/
theorem pass_of_unchanged {text : Text} (same : substitute registry text = text) (fields : List Text)
    (types : Entries Text Text) :
    Expansion.pass registry ⟨text, fields, types⟩ = ⟨text, fields, types⟩ := by
  have fieldless : (pieces text).filterMap Piece.field? = [] := by
    have counted := count_opening_substitute registry text
    rw [same] at counted
    exact List.eq_nil_of_length_eq_zero (by omega)
  have typeless : (pieces text).filterMap Piece.type? = [] := by
    rw [List.filterMap_eq_nil_iff] at fieldless ⊢
    intro piece member
    have untagged := fieldless piece member
    cases piece with
    | literal char => rfl
    | token token =>
      have tagless : token.tag = none := Option.map_eq_none_iff.mp untagged
      rw [Piece.type?, tagless]
      rfl
  have unchanged : (pieces text).flatMap (Piece.replacement registry) = text := same
  simp only [Expansion.pass, unchanged, fieldless, typeless, List.append_nil]
  rfl

/-! ### Passes in two goes -/

/-- An expansion that another pass would leave as it is. -/
def Expansion.AtRest (registry : Registry) (expansion : Expansion) : Prop :=
  expansion.isResolved = true ∨ substitute registry expansion.text = expansion.text

theorem expandFrom_of_atRest {expansion : Expansion} (rests : expansion.AtRest registry)
    (budget : Nat) :
    (expandFrom registry budget expansion).value = expansion := by
  obtain ⟨text, fields, types⟩ := expansion
  cases budget with
  | zero => rfl
  | succ budget =>
    cases pending : isPending text with
    | false => exact expandFrom_of_settled pending _ fields types
    | true =>
      have same : substitute registry text = text := by
        rcases rests with resolved | same
        · rw [Expansion.isResolved, pending] at resolved
          cases resolved
        · exact same
      rw [expandFrom_of_unchanged pending same, pass_of_unchanged same]

/-- **The passes of one budget, then those of another.** -/
theorem expandFrom_add (registry : Registry) (first second : Nat) (expansion : Expansion) :
    (expandFrom registry (first + second) expansion).value =
      (expandFrom registry second (expandFrom registry first expansion).value).value := by
  induction first generalizing expansion with
  | zero =>
    rw [Nat.zero_add]
    rfl
  | succ first ih =>
    by_cases rests : expansion.AtRest registry
    · rw [expandFrom_of_atRest rests, expandFrom_of_atRest rests, expandFrom_of_atRest rests]
    · obtain ⟨text, fields, types⟩ := expansion
      obtain ⟨unresolved, changed⟩ := not_or.mp rests
      have pending : isPending text = true := by
        simpa [Expansion.isResolved] using unresolved
      rw [Nat.succ_add, expandFrom_of_changed pending changed, expandFrom_of_changed pending changed]
      exact ih _

/-- What is found in the passes over a text stands behind what was found before. -/
theorem expandFrom_behind (registry : Registry) (budget : Nat) (text : Text) :
    ∃ last declared typed, ∀ fields types,
      (expandFrom registry budget ⟨text, fields, types⟩).value =
        ⟨last, fields ++ declared, Entries.extend types typed⟩ := by
  induction budget generalizing text with
  | zero =>
    refine ⟨text, [], [], fun fields types => ?_⟩
    rw [List.append_nil]
    rfl
  | succ budget ih =>
    by_cases rests : Expansion.AtRest registry ⟨text, [], []⟩
    · refine ⟨text, [], [], fun fields types => ?_⟩
      have still : Expansion.AtRest registry ⟨text, fields, types⟩ := rests
      rw [expandFrom_of_atRest still, List.append_nil]
      rfl
    · obtain ⟨unresolved, changed⟩ := not_or.mp rests
      have pending : isPending text = true := by
        simpa [Expansion.isResolved] using unresolved
      obtain ⟨last, declared, typed, behind⟩ := ih (substitute registry text)
      refine ⟨last, (pieces text).filterMap Piece.field? ++ declared,
        (pieces text).filterMap Piece.type? ++ typed, fun fields types => ?_⟩
      rw [expandFrom_of_changed pending changed, ← List.append_assoc]
      have extended : Entries.extend types ((pieces text).filterMap Piece.type? ++ typed) =
          Entries.extend (Entries.extend types ((pieces text).filterMap Piece.type?)) typed :=
        List.foldl_append
      rw [extended]
      exact behind _ _

/-- The passes over a text that was come to go on with the fields and types found before. -/
theorem expandFrom_eq_behind (registry : Registry) (budget : Nat) (before : Expansion) :
    (expandFrom registry budget before).value =
      let after := (expandFrom registry budget ⟨before.text, [], []⟩).value
      ⟨after.text, before.fields ++ after.fields, Entries.extend before.types after.types⟩ := by
  obtain ⟨text, fields, types⟩ := before
  obtain ⟨last, declared, typed, behind⟩ := expandFrom_behind registry budget text
  have table : Entries.extend types (Entries.extend [] typed) = Entries.extend types typed :=
    Entries.extend_ofList types typed
  dsimp only
  rw [behind fields types, behind [] [], List.nil_append, table]

/-- **Splitting the budget.** To expand a source within one budget and the text that this comes to
within another is to expand the source within both together: the fields of the second go stand
behind those of the first, its types are written over those of the first, and what it leaves
unresolved is left unresolved. Where the first go has resolved everything, or has come to a text
that a pass leaves as it is, no greater budget changes anything. -/
theorem expand_add (registry : Registry) (first second : Nat) (source : Text) :
    let one := (expand registry first source).value
    let two := (expand registry second one.text).value
    let whole := (expand registry (first + second) source).value
    whole = ⟨two.text, one.fields ++ two.fields, Entries.extend one.types two.types⟩ ∧
      whole.isResolved = two.isResolved ∧
      (one.isResolved = true ∨ substitute registry one.text = one.text →
        ∀ greater, first ≤ greater → (expand registry greater source).value = one) := by
  intro one two whole
  have isOne : one = (expandFrom registry first ⟨source, [], []⟩).value := expand_value ..
  have isTwo : two = (expandFrom registry second ⟨one.text, [], []⟩).value := expand_value ..
  have isWhole : whole = ⟨two.text, one.fields ++ two.fields, Entries.extend one.types two.types⟩ := by
    rw [isTwo, ← expandFrom_eq_behind, isOne, ← expandFrom_add]
    exact expand_value ..
  refine ⟨isWhole, ?_, ?_⟩
  · rw [isWhole]
    rfl
  · intro rests greater enough
    obtain ⟨more, rfl⟩ := Nat.exists_eq_add_of_le enough
    have still : one.AtRest registry := rests
    rw [expand_value, expandFrom_add, ← isOne]
    exact expandFrom_of_atRest still more

end GrokEvents.Grok
