/-
**Openers are neither lost nor doubled.**

The opener of a named group holds no token and ends with a character that no token goes on with, so
a pass leaves it where it stands, whatever the fragments are. Each tagged token opens one more
group, under its own field. The openers of a name in an expansion are therefore at least those of
the source and one for each time that the name is declared; over the built-in table there are no
others. A pass that declares a field changes the text, so an expansion that stops at a text which
has not changed has declared nothing on the way.

* `prefix_substitute_of_stop`: a pass leaves what holds no percent sign and is closed off.
* `le_occurrences_substitute`: the openers of a name before and after a pass, over any registry.
* `substitute_ne_of_tagged`: a pass over a tagged token changes the text.
* `openers_kept`: the openers of a name in a source and in its expansion.
-/

import GrokEvents.Proofs.Grok.Circular
import GrokEvents.Proofs.Grok.Declared
import GrokEvents.Proofs.Grok.Segments

namespace GrokEvents.Grok

open Text Expr

variable {registry : Registry}

/-! ### Openers in passes -/

theorem substitute_append_of_seam {first second : Text} (seam : Seam first second) :
    substitute registry (first ++ second) =
      substitute registry first ++ substitute registry second := by
  rw [substitute, pieces_append_of_seam seam, List.flatMap_append]
  rfl

theorem substitute_of_no_percent {text : Text} (absent : '%' ∉ text) :
    substitute registry text = text := by
  rw [substitute, pieces_of_no_percent absent, List.flatMap_map]
  exact List.flatMap_singleton' text

/-- A pass leaves what has no percent sign in it and ends with a character that is in no token. -/
theorem prefix_substitute_of_stop {stop : Char} (stops : continuesToken stop = false) {part : Text}
    (absent : '%' ∉ part ++ [stop]) {text : Text} (starts : part ++ [stop] <+: text) :
    part ++ [stop] <+: substitute registry text := by
  obtain ⟨more, rfl⟩ := starts
  have other : stop ≠ '%' := fun same => absent (by simp [same])
  rw [substitute_append_of_seam (seam_of_stop stops other part more), substitute_of_no_percent absent]
  exact List.prefix_append _ _

theorem occurrences_le_append (part passed more : Text) :
    occurrences part more ≤ occurrences part (passed ++ more) := by
  induction passed with
  | nil => exact Nat.le_refl _
  | cons char passed ih => exact ih.trans (Nat.le_add_right _ _)

theorem occurrences_self_append {part : Text} (nonempty : part ≠ []) (more : Text) :
    1 + occurrences part more ≤ occurrences part (part ++ more) := by
  obtain ⟨first, rest, rfl⟩ := List.exists_cons_of_ne_nil nonempty
  have starts : first :: rest <+: first :: (rest ++ more) := List.prefix_append (first :: rest) more
  have behind := occurrences_le_append (first :: rest) rest more
  rw [List.cons_append, occurrences, if_pos starts]
  omega

/-- What stands in the place of a token opens a group for the field that the token declares. -/
theorem le_occurrences_wrap_append (token : Token) (fragment name more : Text) :
    token.declared.count name + occurrences (opener name) more ≤
      occurrences (opener name) (token.wrap fragment ++ more) := by
  have behind := occurrences_le_append (opener name) (token.wrap fragment) more
  cases tagged : token.tag with
  | none =>
    rw [Token.declared, tagged]
    exact (Nat.zero_add _).trans_le behind
  | some tag =>
    have declared : token.declared = [tag.field] := by rw [Token.declared, tagged]; rfl
    rw [declared, List.count_singleton]
    by_cases same : tag.field = name
    · rw [Token.wrap_append_of_tag tagged, same, if_pos (beq_self_eq_true name)]
      have nonempty : opener name ≠ [] := List.cons_ne_nil _ _
      have inside := occurrences_le_append (opener name) (fragment ++ [')']) more
      have opened := occurrences_self_append nonempty (fragment ++ [')'] ++ more)
      rw [← List.append_assoc fragment]
      omega
    · rw [if_neg (by simpa using same), Nat.zero_add]
      exact behind

section Passes

variable {name : Text} (percentless : '%' ∉ name)

include percentless

/-- The rest of an opener is left where it stands by a pass. -/
theorem opener_prefix_substitute (registry : Registry) {char : Char} {rest : Text}
    (opens : opener name <+: char :: rest) : opener name <+: char :: substitute registry rest := by
  rw [opener_eq, List.cons_prefix_cons] at opens ⊢
  have absent : '%' ∉ '?' :: 'P' :: '<' :: name ++ ['>'] := by simp [percentless]
  exact ⟨opens.1, prefix_substitute_of_stop rfl absent opens.2⟩

/-- **A pass opens a group for each field that it declares, and loses none**, whatever the fragments
are. -/
theorem le_occurrences_substitute (registry : Registry) (text : Text) :
    occurrences (opener name) text + ((pieces text).filterMap Piece.field?).count name ≤
      occurrences (opener name) (substitute registry text) := by
  induction text using pieces_induction with
  | nil => exact Nat.le_refl _
  | token token rest wellFormed ih =>
    have unopened : '(' ∉ token.spell := List.count_eq_zero.mp (Token.count_opening_spell wellFormed)
    have opened := le_occurrences_wrap_append token (registry.fragment token.name) name
      (substitute registry rest)
    rw [substitute_spell_append registry wellFormed, opener_eq name,
      occurrences_append_of_absent unopened,
      ← opener_eq name, pieces_spell_append wellFormed, filterMap_field?_token, List.count_append]
    omega
  | literal char rest plain ih =>
    rw [substitute_literal registry plain, occurrences, occurrences, pieces_literal plain,
      filterMap_field?_literal]
    split
    · rename_i opens
      rw [if_pos (opener_prefix_substitute percentless registry opens)]
      omega
    · omega

/-- **The openers of a name after any number of passes** are at least those of the source and one
for each time that the name is declared. -/
theorem le_occurrences_expandFrom (registry : Registry) (budget : Nat) (source : Text) :
    let last := (expandFrom registry budget ⟨source, [], []⟩).value
    occurrences (opener name) source + last.fields.count name ≤
      occurrences (opener name) last.text := by
  refine expandFrom_induction (fun expansion =>
    occurrences (opener name) source + expansion.fields.count name ≤
      occurrences (opener name) expansion.text)
    (fun expansion counted => ?_) budget (Nat.le_refl _)
  have opened := le_occurrences_substitute percentless registry expansion.text
  show _ ≤ occurrences (opener name) (substitute registry expansion.text)
  rw [Expansion.pass, List.count_append]
  omega

end Passes

/-- **A pass over a tagged token changes the text**: it has a parenthesis more than before. -/
theorem substitute_ne_of_tagged {text : Text} {token : Token} (member : .token token ∈ pieces text)
    (tagged : token.tag.isSome = true) : substitute registry text ≠ text := by
  intro same
  obtain ⟨tag, isTag⟩ := Option.isSome_iff_exists.mp tagged
  have declared : tag.field ∈ (pieces text).filterMap Piece.field? :=
    List.mem_filterMap.mpr ⟨.token token, member, Option.map_eq_some_iff.mpr ⟨tag, isTag, rfl⟩⟩
  have counted := count_opening_substitute registry text
  have some := List.length_pos_of_mem declared
  rw [same] at counted
  omega

/-! ### Expansions -/

/-- **Openers are neither lost nor doubled.** Over any registry and with any number of passes, an
expansion has at least the openers of its source and one for each time that their name is declared;
over the built-in table it has no more. A pass over a tagged token changes the text, so that one
which leaves the text as it is leaves everything that was found as well; and an expansion that makes
fewer passes than it may has stopped where nothing looks like a token, or at such a pass. -/
theorem openers_kept :
    (∀ registry passes source name, IsGroupName name →
      let last := (expand registry passes source).value
      occurrences (opener name) source + last.fields.count name ≤ occurrences (opener name) last.text) ∧
    (∀ passes source name, IsGroupName name →
      let last := (expand .builtin passes source).value
      occurrences (opener name) last.text = occurrences (opener name) source + last.fields.count name) ∧
    (∀ registry (expansion : Expansion) token, .token token ∈ pieces expansion.text →
      token.tag.isSome = true → (expansion.pass registry).text ≠ expansion.text) ∧
    (∀ registry (expansion : Expansion), (expansion.pass registry).text = expansion.text →
      expansion.pass registry = expansion) ∧
    ∀ registry passes source,
      let made := passesMade registry passes source
      let last := (expand registry passes source).value
      last = (Expansion.pass registry)^[made] ⟨source, [], []⟩ ∧
        (made < passes → last.isResolved = true ∨ last.pass registry = last) := by
  refine ⟨fun registry passes source name isName => ?_, fun passes source name isName => ?_, ?_, ?_,
    fun registry passes source => ?_⟩
  · rw [expand_value]
    exact le_occurrences_expandFrom (isName.not_mem (by decide +kernel)) registry passes source
  · rw [expand_value]
    exact occurrences_expandFrom bare_builtin isName passes source
  · exact fun registry expansion token member tagged => substitute_ne_of_tagged member tagged
  · exact fun registry expansion same => pass_of_unchanged same expansion.fields expansion.types
  · obtain ⟨isLast, rests⟩ := expandFrom_eq_iterate registry passes ⟨source, [], []⟩
    rw [expand_value, isLast]
    exact ⟨rfl, fun fewer => (rests fewer).imp_right fun same => pass_of_unchanged same _ _⟩

/-- A registry whose one fragment opens a group itself. -/
def reopening : Registry :=
  ⟨[("G".toList, "(?P<x>a)".toList)]⟩

/-- One group opened in the source and one by a tag, and one in each of two fragments. -/
theorem openers_kept_reopening :
    let source := "(?P<x>b)%\x7bG:x\x7d%\x7bG\x7d".toList
    let last := (expand reopening 3 source).value
    let plain := (expand .builtin 3 source).value
    let token : Token := ⟨"G".toList, some ⟨"x".toList, none⟩⟩
    let stuck : Expansion := ⟨"%\x7bG:".toList, ["y".toList], []⟩
    IsGroupName "x".toList ∧ last.fields = ["x".toList] ∧
      occurrences (opener "x".toList) last.text = 4 ∧
      occurrences (opener "x".toList) source + last.fields.count "x".toList ≤ 4 ∧
      occurrences (opener "x".toList) plain.text =
        occurrences (opener "x".toList) source + plain.fields.count "x".toList ∧
      .token token ∈ pieces source ∧
      ((⟨source, [], []⟩ : Expansion).pass reopening).text ≠ source ∧
      (stuck.pass reopening).text = stuck.text ∧ stuck.pass reopening = stuck := by
  intro source last plain token stuck
  obtain ⟨least, exact, changes, leaves, -⟩ := openers_kept
  have isName : IsGroupName "x".toList := isGroupName_of_isIdentifier (by decide +kernel)
  have four : occurrences (opener "x".toList) last.text = 4 := by decide +kernel
  have least := least reopening 3 source "x".toList isName
  have member : .token token ∈ pieces source := by decide +kernel
  have same : (stuck.pass reopening).text = stuck.text := by decide +kernel
  exact ⟨isName, by decide +kernel, four, four ▸ least, exact 3 source _ isName, member,
    changes reopening ⟨source, [], []⟩ token member rfl, same, leaves reopening stuck same⟩

end GrokEvents.Grok
