/-
**Patterns that nothing refers to.**

The names that an expansion looks up are found on the way: a fragment that a pass has put in may
hold tokens of other names. Registries that agree on the names looked up expand a source alike,
whatever else is in them. A table that is laid over a registry leaves every name that it does not
hold alone, but for the catch-all: where the table redefines it, every unknown name means something
else.

* `notices_expandFrom`: an expansion notes the unknown ones of the names that it looks up.
* `expandFrom_of_agreeAt`: the passes over registries that agree on the names looked up.
* `expand_of_inert`: a table that holds none of the names looked up changes nothing.
-/

import GrokEvents.Grok.Pattern
import GrokEvents.Proofs.Grok.Layers

namespace GrokEvents.Grok

/-! ### The names that are looked up -/

/-- The name that a piece refers to. -/
def Piece.name? : Piece → Option Text
  | .literal _ => none
  | .token reference => some reference.name

/-- The names whose fragments are substituted in up to `budget` passes over a text, pass by pass. -/
def substituted (registry : Registry) : (budget : Nat) → Text → List Text
  | 0, _ => []
  | budget + 1, text =>
    if isPending text then
      let next := substitute registry text
      (pieces text).filterMap Piece.name? ++
        if next = text then [] else substituted registry budget next
    else []

/-- The notice that looking up a name leaves. -/
def Registry.notice? (registry : Registry) (name : Text) : Option Notice :=
  if (registry.get? name).isSome then none else some .unknownPattern

theorem Piece.notice?_eq_bind (registry : Registry) (piece : Piece) :
    piece.notice? registry = piece.name?.bind registry.notice? := by
  cases piece <;> rfl

/-- An expansion notes the unknown ones of the names that it looks up, in their order. -/
theorem notices_expandFrom (registry : Registry) (budget : Nat) (expansion : Expansion) :
    (expandFrom registry budget expansion).notices =
      (substituted registry budget expansion.text).filterMap registry.notice? := by
  induction budget generalizing expansion with
  | zero => rfl
  | succ budget ih =>
    have unknown : (pieces expansion.text).filterMap (Piece.notice? registry) =
        ((pieces expansion.text).filterMap Piece.name?).filterMap registry.notice? := by
      rw [List.filterMap_filterMap]
      exact List.filterMap_congr fun piece _ => piece.notice?_eq_bind registry
    rw [expandFrom, substituted]
    cases pending : isPending expansion.text with
    | false => rfl
    | true =>
      rw [if_pos rfl, if_pos rfl, List.filterMap_append, ← unknown]
      dsimp only
      by_cases same : (expansion.pass registry).text = expansion.text
      · have unchanged : substitute registry expansion.text = expansion.text := same
        rw [if_pos same, if_pos unchanged]
        exact (List.append_nil _).symm
      · have changed : substitute registry expansion.text ≠ expansion.text := same
        rw [if_neg same, if_neg changed]
        exact congrArg _ (ih _)

/-! ### Registries that agree -/

/-- Two registries know a name alike and give it one fragment. -/
structure AgreeAt (first second : Registry) (name : Text) : Prop where
  known : (second.get? name).isSome = (first.get? name).isSome
  fragment : second.fragment name = first.fragment name

variable {registry other : Registry}

theorem Piece.replacement_of_agreeAt {piece : Piece}
    (agree : ∀ name ∈ piece.name?, AgreeAt registry other name) :
    piece.replacement other = piece.replacement registry := by
  cases piece with
  | literal char => rfl
  | token token =>
    obtain ⟨-, fragment⟩ := agree token.name rfl
    rw [replacement, replacement, fragment]

theorem Piece.notice?_of_agreeAt {piece : Piece}
    (agree : ∀ name ∈ piece.name?, AgreeAt registry other name) :
    piece.notice? other = piece.notice? registry := by
  cases piece with
  | literal char => rfl
  | token token =>
    obtain ⟨known, -⟩ := agree token.name rfl
    rw [notice?, notice?, known]

/-- One pass over a text whose names the registries agree on. -/
theorem pass_of_agreeAt {expansion : Expansion}
    (agree : ∀ name ∈ (pieces expansion.text).filterMap Piece.name?, AgreeAt registry other name) :
    expansion.pass other = expansion.pass registry ∧
      (pieces expansion.text).filterMap (Piece.notice? other) =
        (pieces expansion.text).filterMap (Piece.notice? registry) := by
  have each (piece : Piece) (member : piece ∈ pieces expansion.text) (name : Text)
      (named : name ∈ piece.name?) : AgreeAt registry other name :=
    agree name (List.mem_filterMap.mpr ⟨piece, member, named⟩)
  constructor
  · rw [Expansion.pass, Expansion.pass,
      List.flatMap_congr fun piece member => Piece.replacement_of_agreeAt (each piece member)]
  · exact List.filterMap_congr fun piece member => Piece.notice?_of_agreeAt (each piece member)

/-- **Passes over registries that agree on the names looked up** come to the same, with the same
notices. -/
theorem expandFrom_of_agreeAt {budget : Nat} {expansion : Expansion}
    (agree : ∀ name ∈ substituted registry budget expansion.text, AgreeAt registry other name) :
    expandFrom other budget expansion = expandFrom registry budget expansion := by
  induction budget generalizing expansion with
  | zero => rfl
  | succ budget ih =>
    rw [expandFrom, expandFrom]
    cases pending : isPending expansion.text with
    | false => rfl
    | true =>
      rw [substituted, pending, if_pos rfl] at agree
      obtain ⟨now, later⟩ := List.forall_mem_append.mp agree
      obtain ⟨pass, notices⟩ := pass_of_agreeAt now
      rw [if_pos rfl, if_pos rfl, pass, notices]
      dsimp only
      by_cases same : (expansion.pass registry).text = expansion.text
      · rw [if_pos same, if_pos same]
      · have changed : substitute registry expansion.text ≠ expansion.text := same
        rw [if_neg changed] at later
        rw [if_neg same, if_neg same, ih later]

/-! ### Layers that nothing refers to -/

/-- A layer leaves the names that it does not hold alone, but for the catch-all of unknown ones. -/
theorem agreeAt_extend {later : List (Text × Text)} {name : Text} (unnamed : name ∉ Entries.keys later)
    (known : Registry.fallbackName ∈ Entries.keys later → registry.has name = true) :
    AgreeAt registry ⟨Entries.extend registry.entries later⟩ name := by
  have same : Registry.get? ⟨Entries.extend registry.entries later⟩ name = registry.get? name :=
    Entries.get?_extend_of_not_mem registry.entries unnamed
  refine ⟨congrArg Option.isSome same, ?_⟩
  rw [Registry.fragment, Registry.fragment, same]
  cases found : registry.get? name with
  | some fragment => rfl
  | none =>
    have unknown : registry.has name = false := by
      rw [Registry.has, Entries.has_eq_isSome]
      exact congrArg Option.isSome found
    have kept : Registry.fallbackName ∉ Entries.keys later := fun redefined => by
      rw [known redefined] at unknown
      cases unknown
    have fallback : Registry.get? ⟨Entries.extend registry.entries later⟩ Registry.fallbackName =
        registry.get? Registry.fallbackName :=
      Entries.get?_extend_of_not_mem registry.entries kept
    rw [fallback]

/-- **Patterns that nothing refers to are inert.** A good table is laid over a registry. If no name
that the expansion of a source looks up is in the table and, where the table redefines the
catch-all, all of them are known, then the source expands as before, with the same notices, and
compiles to the same pattern, so that the same texts match. -/
theorem expand_of_inert [Expr.Engine] {patterns table : List (Value × Value)} {registry own : Registry}
    (made : Registry.ofTable patterns = .ok registry) (good : Registry.ofTable table = .ok own)
    {budget : Nat} {source : Text}
    (unnamed : ∀ name ∈ substituted registry budget source, .text name ∉ table.map Prod.fst)
    (known : .text Registry.fallbackName ∈ table.map Prod.fst →
      ∀ name ∈ substituted registry budget source, registry.has name = true) :
    ∃ extended, registry.extend table = .ok extended ∧
      expand extended budget source = expand registry budget source ∧
      Pattern.compile extended budget source = Pattern.compile registry budget source := by
  obtain ⟨texts, -, accepted, rfl⟩ := Registry.ofTable_eq_ok_iff.mp made
  obtain ⟨later, rfl, fine, -⟩ := Registry.ofTable_eq_ok_iff.mp good
  have agree : ∀ name ∈ substituted (.layered texts) budget source, AgreeAt (.layered texts)
      ⟨Entries.extend (Registry.layered texts).entries later⟩ name := fun name member =>
    agreeAt_extend (mt Registry.text_mem_tableOf.mpr (unnamed name member)) fun redefined =>
      known (Registry.text_mem_tableOf.mpr redefined) name member
  have same : expand ⟨Entries.extend (Registry.layered texts).entries later⟩ budget source =
      expand (.layered texts) budget source := by
    rw [expand, expand, expandFrom_of_agreeAt agree]
  refine ⟨_, Registry.extend_tableOf accepted fine, same, ?_⟩
  rw [Pattern.compile, Pattern.compile, same]

/-- A pattern over tokens that hold tokens again. -/
def greeting : List (Text × Text) :=
  [("GREETING".toList, "hi %\x7bWORD:who\x7d, see %\x7bPATH\x7d".toList)]

/-- Patterns that no greeting looks up, the catch-all among them. -/
def strangers : List (Text × Text) :=
  [("DATA".toList, ".+".toList), ("INT".toList, "[0-9]".toList),
    ("STRANGER".toList, "%\x7bGREETING\x7d".toList)]

/-- Three passes over two references to the greeting, each as if there were no strangers. -/
theorem expand_of_inert_strangers :
    let source := "%\x7bGREETING:all:text\x7d %\x7bGREETING\x7d".toList
    let names := substituted (.layered greeting) 10 source
    names = ["GREETING", "GREETING", "WORD", "PATH", "WORD", "PATH", "UNIXPATH", "WINPATH", "UNIXPATH",
        "WINPATH"].map String.toList ∧
      ∃ extended, (Registry.layered greeting).extend (Registry.tableOf strangers) = .ok extended ∧
        expand extended 10 source = expand (.layered greeting) 10 source ∧
        Pattern.compile extended 10 source = Pattern.compile (.layered greeting) 10 source := by
  intro source names
  have listed : names = ["GREETING", "GREETING", "WORD", "PATH", "WORD", "PATH", "UNIXPATH", "WINPATH",
      "UNIXPATH", "WINPATH"].map String.toList := by decide +kernel
  have made : Registry.ofTable (Registry.tableOf greeting) = .ok (.layered greeting) :=
    Registry.ofTable_eq_ok_iff.mpr ⟨greeting, rfl, by decide, rfl⟩
  have good : Registry.ofTable (Registry.tableOf strangers) = .ok (.layered strangers) :=
    Registry.ofTable_eq_ok_iff.mpr ⟨strangers, rfl, by decide, rfl⟩
  have unnamed : ∀ name ∈ names, name ∉ Entries.keys strangers := by
    rw [listed]
    decide
  have known : ∀ name ∈ names, (Registry.layered greeting).has name = true := by
    rw [listed]
    decide +kernel
  exact ⟨listed, expand_of_inert made good
    (fun name member => mt Registry.text_mem_tableOf.mp (unnamed name member)) fun _ => known⟩

/-- A redefined catch-all reaches a source that does not mention it. -/
example : (expand (.layered strangers) 1 "%\x7bNOBODY\x7d".toList).value.text ≠
    (expand .builtin 1 "%\x7bNOBODY\x7d".toList).value.text := by decide +kernel

end GrokEvents.Grok
