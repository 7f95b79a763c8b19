/-
**Settings that are accepted.**

A document of settings is a mapping whose entry `grok` is a mapping whose entry `patterns` is a mapping.
In each of the three places there may also be nothing, and whatever counts as nothing is taken for it:
besides null these are false, zero, and empty texts and collections. So a value of the wrong type passes
in silence where it is such a one. Which files hold which documents is up to a loader, and nothing is
assumed of it.

* `ofDocument_of_places`, `refused_of_place`: what is made of a document is settled by its three places.
* `exists_settings_iff`: the documents that are accepted.
* `complaints_of_loads`: a file that has a document is accepted without a complaint, or refused with a
  single one.
-/

import GrokEvents.Settings
import GrokEvents.Yaml.Document
import GrokEvents.Proofs.Grok.Layers

namespace GrokEvents

open Grok

/-! ### Places -/

namespace Value

/-- The entries of a mapping; nothing else has any. -/
def members : Value → List (Value × Value)
  | .mapping entries => entries
  | _ => []

/-- What stands under a key of a mapping, or null. -/
def under (key : String) (value : Value) : Value :=
  (getText? key.toList value.members).getD .null

def IsMapping (value : Value) : Prop :=
  ∃ entries, value = .mapping entries

end Value

namespace Settings

variable {path : Text} {document : Value} {settings : Settings} {error : SettingsError}

/-- The mapping of patterns in a document. -/
def patternsOf (document : Value) : Value :=
  (document.under "grok").under "patterns"

/-- The places of a document where a mapping has to stand, or nothing. -/
def places (document : Value) : List Value :=
  [document, document.under "grok", patternsOf document]

/-- A document of settings, where some values count as nothing. -/
structure IsSettings (isNothing : Value → Prop) (document : Value) : Prop where
  mappings : ∀ place ∈ places document, place.IsMapping ∨ isNothing place
  patterns : ∃ registry, Registry.ofTable (patternsOf document).members = .ok registry
  /-- The budget is left out, or it is a positive integer or the boolean that counts as one. -/
  budget : ∀ value,
    Value.getText? "max_iterations".toList (document.under "grok").members = some value →
      (∃ count : Int, value = .int count ∧ 1 ≤ count) ∨ value = .bool true

theorem entriesOf_of_fits {place : Value} (fits : place.IsMapping ∨ place.isVoid = true)
    (error : SettingsError) : entriesOf error place = .ok place.members := by
  rcases fits with ⟨entries, rfl⟩ | void
  · rfl
  · cases place with
    | mapping entries => rfl
    | _ => simp only [entriesOf, void, if_true, Value.members]

theorem entriesOf_of_misfit {place : Value} (misfit : ¬ (place.IsMapping ∨ place.isVoid = true))
    (error : SettingsError) : entriesOf error place = .error error := by
  rw [not_or] at misfit
  cases place with
  | mapping entries => exact absurd ⟨entries, rfl⟩ misfit.1
  | _ => simp only [entriesOf, misfit.2, if_false, Bool.false_eq_true]

/-! ### Budgets and patterns -/

theorem exists_passes_iff {budget : Value} : (∃ passes, passes? budget = some passes) ↔
    (∃ count : Int, budget = .int count ∧ 1 ≤ count) ∨ budget = .bool true := by
  constructor
  · rintro ⟨passes, isBudget⟩
    unfold passes? at isBudget
    split at isBudget
    · rename_i count
      split at isBudget
      · rename_i positive
        exact .inl ⟨count, rfl, positive⟩
      · cases isBudget
    · exact .inr rfl
    · cases isBudget
  · rintro (⟨count, rfl, positive⟩ | rfl)
    · exact ⟨count.toNat, if_pos positive⟩
    · exact ⟨1, rfl⟩

theorem passes_pos {budget : Value} {passes : Nat} (isBudget : passes? budget = some passes) :
    1 ≤ passes := by
  unfold passes? at isBudget
  split at isBudget
  · split at isBudget
    · obtain rfl := Option.some.inj isBudget
      omega
    · cases isBudget
  · obtain rfl := Option.some.inj isBudget
    exact Nat.le_refl 1
  · cases isBudget

/-- What settings are made of: a budget that stands for some passes, and patterns that make a
registry. -/
theorem create_eq_ok_iff {budget : Value} {patterns : List (Value × Value)} :
    create budget patterns = .ok settings ↔ settings.budget = budget ∧
      passes? budget = some settings.passes ∧
        patterns.mapM Registry.checkEntry = .ok settings.patterns := by
  obtain ⟨given, passes, texts⟩ := settings
  rw [create]
  cases passes? budget with
  | none => simp
  | some count =>
    cases patterns.mapM Registry.checkEntry <;> simp [eq_comm]

theorem exists_create_iff {budget : Value} {patterns : List (Value × Value)} :
    (∃ settings, create budget patterns = .ok settings) ↔ (∃ passes, passes? budget = some passes) ∧
      ∃ registry, Registry.ofTable patterns = .ok registry := by
  constructor
  · rintro ⟨settings, created⟩
    obtain ⟨-, isBudget, checked⟩ := create_eq_ok_iff.mp created
    obtain ⟨same, accepted⟩ := Registry.mapM_checkEntry_eq_ok_iff.mp checked
    exact ⟨⟨_, isBudget⟩, _, Registry.ofTable_eq_ok_iff.mpr ⟨_, same, accepted, rfl⟩⟩
  · rintro ⟨⟨passes, isBudget⟩, registry, made⟩
    obtain ⟨texts, same, accepted, -⟩ := Registry.ofTable_eq_ok_iff.mp made
    exact ⟨⟨budget, passes, texts⟩, create_eq_ok_iff.mpr
      ⟨rfl, isBudget, Registry.mapM_checkEntry_eq_ok_iff.mpr ⟨same, accepted⟩⟩⟩

theorem failure?_of_create {budget : Value} {patterns : List (Value × Value)}
    (refused : create budget patterns = .error error) : error.failure? = none := by
  rw [create] at refused
  cases isBudget : passes? budget with
  | none =>
    rw [isBudget] at refused
    cases refused
    rfl
  | some count =>
    cases checked : patterns.mapM Registry.checkEntry with
    | error problem =>
      rw [isBudget, checked] at refused
      cases refused
      rfl
    | ok texts =>
      rw [isBudget, checked] at refused
      cases refused

/-! ### Documents -/

/-- The budget of a document, or the one by default. -/
def budgetOf (document : Value) : Value :=
  (Value.getText? "max_iterations".toList (document.under "grok").members).getD defaultBudget

/-- Where all places hold what they should, the budget and the patterns decide. -/
theorem ofDocument_of_places (path : Text)
    (fit : ∀ place ∈ places document, place.IsMapping ∨ place.isVoid = true) :
    ofDocument path document = create (budgetOf document) (patternsOf document).members := by
  obtain ⟨top, fit⟩ := List.forall_mem_cons.mp fit
  obtain ⟨grok, fit⟩ := List.forall_mem_cons.mp fit
  obtain ⟨patterns, -⟩ := List.forall_mem_cons.mp fit
  rw [ofDocument, entriesOf_of_fits top]
  show (entriesOf .grokNotMapping (document.under "grok")).bind _ = _
  rw [entriesOf_of_fits grok]
  show (entriesOf .patternsNotMapping (patternsOf document)).bind _ = _
  rw [entriesOf_of_fits patterns]
  rfl

/-- A place that holds something else has the document refused. -/
theorem refused_of_place (path : Text)
    (misfit : ¬ ∀ place ∈ places document, place.IsMapping ∨ place.isVoid = true) :
    ∃ error, ofDocument path document = .error error ∧ error.failure? = none := by
  rw [ofDocument]
  by_cases top : document.IsMapping ∨ document.isVoid = true
  · rw [entriesOf_of_fits top]
    show ∃ error, (entriesOf .grokNotMapping (document.under "grok")).bind _ = .error error ∧ _
    by_cases grok : (document.under "grok").IsMapping ∨ (document.under "grok").isVoid = true
    · rw [entriesOf_of_fits grok]
      show ∃ error, (entriesOf .patternsNotMapping (patternsOf document)).bind _ = .error error ∧ _
      by_cases patterns : (patternsOf document).IsMapping ∨ (patternsOf document).isVoid = true
      · refine absurd (fun place member => ?_) misfit
        rcases List.mem_cons.mp member with rfl | member
        · exact top
        rcases List.mem_cons.mp member with rfl | member
        · exact grok
        rw [List.mem_singleton.mp member]
        exact patterns
      · exact ⟨.patternsNotMapping, by rw [entriesOf_of_misfit patterns]; rfl, rfl⟩
    · exact ⟨.grokNotMapping, by rw [entriesOf_of_misfit grok]; rfl, rfl⟩
  · exact ⟨.documentNotMapping path, by rw [entriesOf_of_misfit top]; rfl, rfl⟩

theorem exists_passes_budgetOf_iff : (∃ passes, passes? (budgetOf document) = some passes) ↔
    ∀ value, Value.getText? "max_iterations".toList (document.under "grok").members = some value →
      (∃ count : Int, value = .int count ∧ 1 ≤ count) ∨ value = .bool true := by
  rw [budgetOf]
  cases Value.getText? "max_iterations".toList (document.under "grok").members with
  | none => exact ⟨fun _ => nofun, fun _ => ⟨Compiler.defaultPasses, rfl⟩⟩
  | some given =>
    rw [Option.getD_some, exists_passes_iff]
    exact ⟨fun good value same => Option.some.inj same ▸ good, fun good => good given rfl⟩

/-- **The documents that are accepted.** Whatever counts as nothing is taken for an empty mapping. -/
theorem exists_settings_iff (path : Text) (document : Value) :
    (∃ settings, ofDocument path document = .ok settings) ↔ IsSettings (·.isVoid = true) document := by
  by_cases fit : ∀ place ∈ places document, place.IsMapping ∨ place.isVoid = true
  · rw [ofDocument_of_places path fit, exists_create_iff, exists_passes_budgetOf_iff]
    exact ⟨fun good => ⟨fit, good.2, good.1⟩, fun good => ⟨good.budget, good.patterns⟩⟩
  · obtain ⟨error, refused, -⟩ := refused_of_place path fit
    constructor
    · rintro ⟨settings, accepted⟩
      rw [refused] at accepted
      cases accepted
    · exact fun good => absurd good.mappings fit

theorem failure?_of_ofDocument (refused : ofDocument path document = .error error) :
    error.failure? = none := by
  by_cases fit : ∀ place ∈ places document, place.IsMapping ∨ place.isVoid = true
  · rw [ofDocument_of_places path fit] at refused
    exact failure?_of_create refused
  · obtain ⟨other, found, harmless⟩ := refused_of_place path fit
    rw [found] at refused
    cases refused
    exact harmless

/-- Accepted settings build a registry and a compiler. -/
theorem builds_of_ofDocument (accepted : ofDocument path document = .ok settings) :
    Registry.ofTable (Registry.tableOf settings.patterns) = .ok settings.registry ∧
      Compiler.create settings.registry settings.passes Compiler.defaultCacheSize =
        .ok settings.compiler := by
  have fit := ((exists_settings_iff path document).mp ⟨settings, accepted⟩).mappings
  rw [ofDocument_of_places path fit] at accepted
  obtain ⟨-, isBudget, checked⟩ := create_eq_ok_iff.mp accepted
  obtain ⟨-, good⟩ := Registry.mapM_checkEntry_eq_ok_iff.mp checked
  have positive := passes_pos isBudget
  refine ⟨Registry.ofTable_eq_ok_iff.mpr ⟨_, rfl, good, rfl⟩, ?_⟩
  rw [Compiler.create, if_neg (by omega), if_neg (by decide), if_neg (by decide), Int.toNat_natCast]
  rfl

/-! ### Files -/

/-- A loader makes a document of a file. -/
def Loads (load : Loader) (files : Files) (path : Text) (document : Value) : Prop :=
  ∃ bytes, files path = .ok bytes ∧ load bytes = .ok document

variable {load : Loader} {files : Files}

theorem ofFile_of_loads (loads : Loads load files path document) :
    ofFile load files path = ofDocument path document := by
  obtain ⟨bytes, opened, loaded⟩ := loads
  rw [ofFile, opened]
  show ((load bytes).mapError _).bind _ = _
  rw [loaded]
  rfl

/-- Settings by what is meant to count as nothing, against those by what does. -/
theorem isSettings_null_iff : IsSettings (· = .null) document ↔ IsSettings (·.isVoid = true) document ∧
    ∀ place ∈ places document, place.isVoid = true → place.IsMapping ∨ place = .null := by
  constructor
  · intro good
    refine ⟨⟨fun place member => ?_, good.patterns, good.budget⟩,
      fun place member _ => good.mappings place member⟩
    rcases good.mappings place member with mapping | rfl
    · exact .inl mapping
    · exact .inr rfl
  · rintro ⟨good, strict⟩
    refine ⟨fun place member => ?_, good.patterns, good.budget⟩
    rcases good.mappings place member with mapping | void
    · exact .inl mapping
    · exact strict place member void

/-- **How a file of settings is judged.** Whatever loader makes a document of it, the file is
accepted, without a complaint, just where its document is one of settings in which void values count
as nothing, and else refused with a single complaint. Such a document is one in which only null
counts as nothing, unless a void value of another type stands in one of the three places. From
accepted settings a registry and a compiler are built. -/
theorem complaints_of_loads (loads : Loads load files path document) :
    (((∃ settings, ofFile load files path = .ok settings) ∧ complaints load files path = .ok []) ↔
        IsSettings (·.isVoid = true) document) ∧
      (¬ IsSettings (·.isVoid = true) document →
        ∃ complaint, complaints load files path = .ok [complaint]) ∧
      (IsSettings (· = .null) document ↔ IsSettings (·.isVoid = true) document ∧
        ∀ place ∈ places document, place.isVoid = true → place.IsMapping ∨ place = .null) ∧
      ∀ settings, ofFile load files path = .ok settings →
        Registry.ofTable (Registry.tableOf settings.patterns) = .ok settings.registry ∧
          Compiler.create settings.registry settings.passes Compiler.defaultCacheSize =
            .ok settings.compiler := by
  have read := ofFile_of_loads loads
  have judged := exists_settings_iff path document
  rw [← read] at judged
  refine ⟨⟨fun accepted => judged.mp accepted.1, fun good => ?_⟩, fun bad => ?_,
    isSettings_null_iff, ?_⟩
  · obtain ⟨settings, accepted⟩ := judged.mpr good
    refine ⟨⟨settings, accepted⟩, ?_⟩
    rw [complaints, accepted]
  · cases made : ofFile load files path with
    | ok settings => exact absurd (judged.mp ⟨settings, made⟩) bad
    | error error =>
      have harmless := failure?_of_ofDocument (read ▸ made)
      refine ⟨error.message, ?_⟩
      rw [complaints, made]
      dsimp only
      rw [harmless]
  · intro settings accepted
    exact builds_of_ofDocument (read ▸ accepted)

/-- A document is loaded from the bytes of its text. -/
theorem load_of_ofText {bytes : List Nat} {text : Text} (decoded : File.streamedText bytes = .ok text)
    (isRead : Yaml.ofText text = .ok document) : Yaml.load bytes = .ok document := by
  rw [Yaml.load, decoded]
  show (Yaml.ofText text).mapError _ = _
  rw [isRead]
  rfl

/-- One file of ASCII text under every name. -/
def filesOf (text : Text) : Files :=
  fun _ => .ok (text.map Char.toNat)

/-- A boolean for the budget, and two patterns of which one refers to the other. -/
def greetingDocument : Text :=
  ("grok:\n  max_iterations: yes\n  patterns:\n    GREETING: 'hi %\x7bWORD:who\x7d'\n" ++
    "    HELLO: '%\x7bGREETING\x7d'\n").toList

set_option maxRecDepth 4000 in
/-- It is loaded, accepted without a complaint, and builds a compiler of a single pass. -/
theorem complaints_of_loads_greeting : ∃ document,
    Loads Yaml.load (filesOf greetingDocument) "greeting".toList document ∧
      complaints Yaml.load (filesOf greetingDocument) "greeting".toList = .ok [] ∧
      ∃ settings, ofFile Yaml.load (filesOf greetingDocument) "greeting".toList = .ok settings ∧
        (settings.passes, settings.patterns) =
          (1, [("GREETING".toList, "hi %\x7bWORD:who\x7d".toList),
            ("HELLO".toList, "%\x7bGREETING\x7d".toList)]) ∧
        Compiler.create settings.registry settings.passes Compiler.defaultCacheSize =
          .ok settings.compiler := by
  have decoded : File.streamedText (greetingDocument.map Char.toNat) = .ok greetingDocument := by
    rfl
  obtain ⟨document, isRead⟩ : ∃ document, Yaml.ofText greetingDocument = .ok document := by
    have isRead : (Yaml.ofText greetingDocument).toOption.isSome = true := by
      decide +kernel
    cases known : Yaml.ofText greetingDocument with
    | ok document => exact ⟨document, rfl⟩
    | error fault =>
      rw [known] at isRead
      cases isRead
  have loads : Loads Yaml.load (filesOf greetingDocument) "greeting".toList document :=
    ⟨_, rfl, load_of_ofText decoded isRead⟩
  have parts : ((ofFile Yaml.load (filesOf greetingDocument) "greeting".toList).map fun settings =>
      (settings.passes, settings.patterns)).toOption =
        some (1, [("GREETING".toList, "hi %\x7bWORD:who\x7d".toList),
          ("HELLO".toList, "%\x7bGREETING\x7d".toList)]) := by
    decide +kernel
  cases made : ofFile Yaml.load (filesOf greetingDocument) "greeting".toList with
  | error error =>
    rw [made] at parts
    cases parts
  | ok settings =>
    rw [made] at parts
    obtain ⟨judged, -, -, builds⟩ := complaints_of_loads loads
    have none : complaints Yaml.load (filesOf greetingDocument) "greeting".toList = .ok [] := by
      rw [complaints, made]
    exact ⟨document, loads, none, settings, rfl, Option.some.inj parts, (builds settings made).2⟩

/-- An empty list is no mapping, and is accepted all the same. -/
theorem complaints_emptyList : Loads Yaml.load (filesOf "[]".toList) "list".toList (.list []) ∧
    complaints Yaml.load (filesOf "[]".toList) "list".toList = .ok [] ∧
      ¬ IsSettings (· = .null) (.list []) := by
  have loads : Loads Yaml.load (filesOf "[]".toList) "list".toList (.list []) :=
    ⟨_, rfl, load_of_ofText rfl rfl⟩
  refine ⟨loads, ?_, fun good => ?_⟩
  · rw [complaints, ofFile_of_loads loads]
    rfl
  rcases good.mappings _ List.mem_cons_self with ⟨entries, same⟩ | null
  · cases same
  · cases null

end Settings

end GrokEvents
