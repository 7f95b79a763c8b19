/-
**Values of documents.**

The value of a document's root. Mappings take in the mappings that are merged into them, whose
entries come first and give way to their own. Of several faults the one nearest to the root
counts, and of those the first.

* `ofText`: the value of a document, or what is wrong with it.
* `load`: the loader that reads documents so.
-/

import GrokEvents.Yaml.Leaf
import GrokEvents.File

namespace GrokEvents.Yaml

/-! ## Merging -/

namespace Node

/-- A node as a text, whatever its tag. -/
def asText : Node → Node
  | .scalar _ text plain => .scalar (.full "tag:yaml.org,2002:str".toList) text plain
  | .sequence _ items => .sequence (.full "tag:yaml.org,2002:str".toList) items
  | .mapping _ entries => .mapping (.full "tag:yaml.org,2002:str".toList) entries
  | .again isMapping => .again isMapping

mutual

/-- The entries of a mapping with those merged into it. -/
def mergedEntries : Node → Except Fault (List (Node × Node))
  | .mapping _ entries => do
    let (merged, own) ← splitMerges entries
    return merged ++ own
  | .again true => .ok []
  | _ => .error .malformed

/-- The entries that are merged into a mapping, and its own. -/
def splitMerges : List (Node × Node) →
    Except Fault (List (Node × Node) × List (Node × Node))
  | [] => .ok ([], [])
  | (key, value) :: rest => do
    let (merged, own) ← splitMerges rest
    match key.kind with
    | .merge =>
      let found ←
        match value with
        | .mapping tag entries => mergedEntries (.mapping tag entries)
        | .sequence _ items => mergedItems items
        | .again _ => pure []
        | .scalar .. => .error .malformed
      return (found ++ merged, own)
    | .value => return (merged, (key.asText, value) :: own)
    | _ => return (merged, (key, value) :: own)

/-- The entries of a list of mappings to merge, the last mapping first. -/
def mergedItems : List Node → Except Fault (List (Node × Node))
  | [] => .ok []
  | item :: rest => do
    let first ← mergedEntries item
    let others ← mergedItems rest
    return others ++ first

end

/-! ## Texts of nodes -/

mutual

/-- The text of a scalar, or of the scalar that stands for a mapping. -/
def scalarText : Node → Except Fault Text
  | .scalar _ text _ => .ok text
  | .mapping _ entries => standInText entries
  | _ => .error .malformed

/-- The text of the entry that stands for its mapping. -/
def standInText : List (Node × Node) → Except Fault Text
  | [] => .error .malformed
  | (key, value) :: rest => if key.kind = .value then scalarText value else standInText rest

end

end Node

/-! ## Collections -/

namespace Kind

/-- Whether values of a kind hold other values. -/
def isCollection : Kind → Bool
  | .omap | .pairs | .set | .sequence | .mapping => true
  | _ => false

end Kind

/-- What the value of a collection asks for next. -/
inductive Task where
  /-- The value of a node; a key may be no collection. -/
  | build (node : Node) (isKey : Bool)
  | fail

/-- What the value of a collection of a kind asks for, in order. -/
def Node.tasks (node : Node) : List Task :=
  match node.kind, node with
  | .sequence, .sequence _ items => items.map (Task.build · false)
  | .omap, .sequence _ items | .pairs, .sequence _ items =>
    items.flatMap fun item =>
      match item with
      | .mapping _ [(key, value)] => [.build key false, .build value false]
      | _ => [.fail]
  | .mapping, _ | .set, _ =>
    match node.mergedEntries with
    | .ok entries => entries.flatMap fun entry => [.build entry.1 true, .build entry.2 false]
    | .error _ => [.fail]
  | _, .again _ => []
  | _, _ => [.fail]

/-- The value of a node that is no collection. -/
def Node.leaf (node : Node) : Except Fault Value := do
  leafValue node.kind (← node.scalarText)

/-- The collections that tasks lead to, or the first fault among them. -/
def runTasks : List Task → Except Fault (List Node)
  | [] => .ok []
  | .fail :: _ => .error .malformed
  | .build node isKey :: rest =>
    if node.kind.isCollection then
      if isKey then .error .malformed
      else
        match node with
        | .again _ => runTasks rest
        | _ => (runTasks rest).map (node :: ·)
    else do
      let _ ← node.leaf
      runTasks rest

/-- The first fault below some collections, level by level. -/
def firstFault? : (depth : Nat) → List Node → Option Fault
  | 0, _ => none
  | _, [] => none
  | depth + 1, level =>
    match level.mapM fun node => runTasks node.tasks with
    | .error fault => some fault
    | .ok next => firstFault? depth next.flatten

/-- The values of the keys of a mapping, each once. -/
def distinct (keys : List Value) : List Value :=
  (Value.mergeEntries (keys.map fun key => (key, .null))).map Prod.fst

/-- The value of a node whose collections are nested no deeper than `depth`. -/
def Node.value : (depth : Nat) → Node → Except Fault Value
  | 0, _ => .error .malformed
  | depth + 1, node =>
    let entry (entry : Node × Node) : Except Fault (Value × Value) := do
      return (← entry.1.value depth, ← entry.2.value depth)
    match node with
    | .again isMapping => .ok (.again isMapping)
    | _ =>
      match node.kind, node with
      | .sequence, .sequence _ items => do
        return .list (← items.mapM fun item => item.value depth)
      | .omap, .sequence _ items | .pairs, .sequence _ items => do
        return .list (← items.mapM fun item =>
          match item with
          | .mapping _ [(key, value)] => do
            let (key, value) ← entry (key, value)
            return .pair key value
          | _ => .error .malformed)
      | .mapping, _ => do
        return .mapping (Value.mergeEntries (← (← node.mergedEntries).mapM entry))
      | .set, _ => do
        return .set (distinct ((← (← node.mergedEntries).mapM entry).map Prod.fst))
      | _, _ => node.leaf

/-! ## Documents -/

/-- The value of a document's root. -/
def rootValue (depth : Nat) (root : Node) : Except Fault Value :=
  match runTasks [.build root false] with
  | .error fault => .error fault
  | .ok level =>
    match firstFault? depth level with
    | some fault => .error fault
    | none => root.value depth

/-- The value of a document; an empty one is null. -/
def ofText (document : Text) : Except Fault Value := do
  if document.any fun char => !isReadable char then .error .malformed
  else
    let tokens := tokens document
    match ← rootOf tokens with
    | none => return .null
    | some root => rootValue (tokens.length + 2) root

/-- What a fault of a document comes to for whoever has it loaded. -/
def Fault.toLoadFault (fault : Fault) : LoadFault :=
  match fault with
  | .malformed => .malformed fault.message
  | .codeOverflow => .failed ⟨"overflow".toList, fault.message⟩
  | .emptyNumber => .failed ⟨"place".toList, fault.message⟩
  | .notBoolean _ => .failed ⟨"key".toList, fault.message⟩
  | .notTimestamp => .failed ⟨"attribute".toList, fault.message⟩
  | _ => .refused fault.message

/-- Loads a file as a document. -/
def load : Loader := fun bytes => do
  let text ← (File.streamedText bytes).mapError fun fault => .refused fault.message
  (ofText text).mapError Fault.toLoadFault

end GrokEvents.Yaml
