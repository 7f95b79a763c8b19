/-
**Balanced texts.**

The braces of a balanced text close in order: no start of it closes more of them than it opens, and
the whole closes as many as it opens.

* `balanced_iff`: counting the open braces from the left decides it.
* `body?_append_of_depth`: a section runs past a text and goes on at the depth that the text ends in.
* `closing_mem_of_opening`: what a balanced text opens, it closes.
-/

import GrokEvents.Filter.Section

namespace GrokEvents.Filter

/-- No start of the text closes more braces than it opens, and the text closes all of them. -/
def Balanced (text : Text) : Prop :=
  (∀ start, start <+: text → start.count '}' ≤ start.count '{') ∧
    text.count '}' = text.count '{'

/-! ### Counting from the left -/

/-- The number of open braces after one more character; a brace that was never opened cannot be
closed. -/
def braceStep? (depth : Nat) (char : Char) : Option Nat :=
  if char = '{' then some (depth + 1)
  else if char = '}' then if depth = 0 then none else some (depth - 1)
  else some depth

/-- The number of open braces after a text that starts with `depth` of them. -/
def depthAfter? (depth : Nat) (text : Text) : Option Nat :=
  text.foldlM braceStep? depth

theorem braceStep?_of_other {char : Char} (depth : Nat) (notOpening : char ≠ '{')
    (notClosing : char ≠ '}') : braceStep? depth char = some depth := by
  rw [braceStep?, if_neg notOpening, if_neg notClosing]

theorem depthAfter?_cons (depth : Nat) (char : Char) (rest : Text) :
    depthAfter? depth (char :: rest) =
      (braceStep? depth char).bind fun reached => depthAfter? reached rest :=
  rfl

theorem depthAfter?_append (depth : Nat) (text rest : Text) :
    depthAfter? depth (text ++ rest) =
      (depthAfter? depth text).bind fun reached => depthAfter? reached rest :=
  List.foldlM_append

/-- A text without braces leaves the depth as it is. -/
theorem depthAfter?_of_no_brace {text : Text} (depth : Nat) (noOpening : '{' ∉ text)
    (noClosing : '}' ∉ text) : depthAfter? depth text = some depth := by
  induction text with
  | nil => rfl
  | cons char text ih =>
    rw [List.mem_cons, not_or] at noOpening noClosing
    rw [depthAfter?_cons, braceStep?_of_other depth (Ne.symm noOpening.1) (Ne.symm noClosing.1)]
    exact ih noOpening.2 noClosing.2

/-- One step moves the depth by what the character opens and closes. -/
theorem braceStep?_eq_some_iff {depth reached : Nat} {char : Char} :
    braceStep? depth char = some reached ↔
      [char].count '}' + reached = depth + [char].count '{' := by
  unfold braceStep?
  by_cases opening : char = '{'
  · subst opening
    simp [eq_comm]
  · by_cases closing : char = '}'
    · subst closing
      simp
      omega
    · simp [opening, closing, eq_comm]

/-- A depth is reached exactly when no start of the text closes too many braces, and it is what the
counts of the braces make it. -/
theorem depthAfter?_eq_some_iff {depth reached : Nat} {text : Text} :
    depthAfter? depth text = some reached ↔
      (∀ start, start <+: text → start.count '}' ≤ depth + start.count '{') ∧
        text.count '}' + reached = depth + text.count '{' := by
  induction text generalizing depth with
  | nil => simp [depthAfter?, eq_comm]
  | cons char text ih =>
    have split (brace : Char) (start : Text) :
        (char :: start).count brace = [char].count brace + start.count brace :=
      show ([char] ++ start).count brace = _ from List.count_append
    rw [depthAfter?_cons, Option.bind_eq_some_iff]
    simp only [braceStep?_eq_some_iff, ih]
    constructor
    · rintro ⟨middle, step, starts, total⟩
      refine ⟨fun start isStart => ?_, ?_⟩
      · rcases List.prefix_cons_iff.mp isStart with rfl | ⟨rest, rfl, isRest⟩
        · simp
        · have := starts rest isRest
          rw [split '{' rest, split '}' rest]
          omega
      · rw [split '{' text, split '}' text]
        omega
    · rintro ⟨starts, total⟩
      have first := starts [char] (by simp)
      refine ⟨depth + [char].count '{' - [char].count '}', by omega, fun start isStart => ?_, ?_⟩
      · have := starts (char :: start) (List.cons_prefix_cons.mpr ⟨rfl, isStart⟩)
        rw [split '{' start, split '}' start] at this
        omega
      · rw [split '{' text, split '}' text] at total
        omega

theorem balanced_iff (text : Text) : Balanced text ↔ depthAfter? 0 text = some 0 := by
  rw [depthAfter?_eq_some_iff]
  simp [Balanced]

/-- A balanced text leaves every depth as it is. -/
theorem Balanced.depthAfter? {text : Text} (balanced : Balanced text) (depth : Nat) :
    depthAfter? depth text = some depth := by
  refine depthAfter?_eq_some_iff.mpr ⟨fun start isStart => ?_, ?_⟩
  · have := balanced.1 start isStart
    omega
  · have := balanced.2
    omega

instance (text : Text) : Decidable (Balanced text) :=
  decidable_of_iff' _ (balanced_iff text)

/-! ### Sections of balanced texts -/

theorem body?_cons_of_step {depth reached : Nat} {char : Char}
    (step : braceStep? depth char = some reached) (rest : Text) :
    body? depth (char :: rest) = (body? reached rest).map (char :: ·) := by
  unfold braceStep? at step
  split at step
  · rename_i opening
    obtain rfl := Option.some.inj step
    cases depth <;> simp [body?, opening]
  · rename_i notOpening
    split at step
    · rename_i closing
      cases depth with
      | zero => simp at step
      | succ depth =>
        obtain rfl : depth = reached := by simpa using step
        simp [body?, closing]
    · rename_i notClosing
      obtain rfl := Option.some.inj step
      cases depth <;> simp [body?, notOpening, notClosing]

theorem body?_append_of_depth {depth reached : Nat} {text : Text}
    (after : depthAfter? depth text = some reached) (rest : Text) :
    body? depth (text ++ rest) = (body? reached rest).map (text ++ ·) := by
  induction text generalizing depth with
  | nil =>
    obtain rfl := Option.some.inj after
    simp
  | cons char text ih =>
    rw [depthAfter?_cons] at after
    obtain ⟨middle, step, after⟩ := Option.bind_eq_some_iff.mp after
    rw [List.cons_append, body?_cons_of_step step, ih after, Option.map_map]
    rfl

/-- A balanced text before a closing brace is the body of a section. -/
theorem body?_of_balanced {text : Text} (balanced : Balanced text) (rest : Text) :
    body? 0 (text ++ '}' :: rest) = some text := by
  rw [body?_append_of_depth (balanced.depthAfter? 0)]
  simp [body?]

/-- After an opening brace of a balanced text a closing one follows. -/
theorem closing_mem_of_opening (before : Text) {after : Text}
    (balanced : Balanced (before ++ '{' :: after)) : '}' ∈ after := by
  have whole := balanced.depthAfter? 0
  rw [depthAfter?_append] at whole
  obtain ⟨depth, _, rest⟩ := Option.bind_eq_some_iff.mp whole
  have rest : depthAfter? (depth + 1) after = some 0 := rest
  have counts := (depthAfter?_eq_some_iff.mp rest).2
  apply List.count_pos_iff.mp
  omega

end GrokEvents.Filter
