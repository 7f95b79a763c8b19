/-
**What an explanation shows can be read back.**

An explanation shows the fields of a line and the event made of them as documents between fences.
Whatever the fields hold, back-ticks and line breaks included, no line inside a document is a fence,
so the documents are found again among the lines, and they are read as what was shown.

* `Conforms.exact`: a value of a closed type can be read back.
* `exact_ofFields_event`: so can every event.
* `block?_fenced`: the lines between the fences of a document.
* `explain_blocks`: the two documents of an explanation.
-/

import GrokEvents.Proofs.Event.Mapping
import GrokEvents.Proofs.Json.Layout

namespace GrokEvents.Event

/-! ### Values of closed types -/

mutual

/-- Whether a type declares all names of its values, each object its own once. -/
def Shape.isClosed : Shape → Bool
  | .text | .int => true
  | .table => false
  | .list item => item.isClosed
  | .object declared => decide (declared.map Prod.fst).Nodup && areClosed declared

/-- Whether the types of all declared members are closed. -/
def areClosed : List (String × Shape) → Bool
  | [] => true
  | (_, shape) :: declared => shape.isClosed && areClosed declared

end

mutual

/-- A value of a closed type can be read back. -/
theorem Conforms.exact {shape : Shape} {value : Json} (conforms : Conforms shape value)
    (closed : shape.isClosed = true) : value.Exact := by
  cases conforms with
  | text value => exact .text value
  | int value => exact .int value
  | table fields => cases closed
  | list each => exact .array fun value among => (each value among).exact closed
  | object each =>
    obtain ⟨distinct, others⟩ := Bool.and_eq_true_iff.mp closed
    refine .object (each.keys_sublist.nodup ?_) (each.exact others)
    exact (of_decide_eq_true distinct).map fun _ _ => String.toList_inj.mp

/-- So can members of closed types. -/
theorem ConformingMembers.exact {declared : List (String × Shape)} {members : List (Text × Json)}
    (conforming : ConformingMembers declared members) (closed : areClosed declared = true) :
    ∀ member ∈ members, member.2.Exact := by
  cases conforming with
  | nil => exact nofun
  | absent others => exact others.exact (Bool.and_eq_true_iff.mp closed).2
  | present first others =>
    obtain ⟨here, later⟩ := Bool.and_eq_true_iff.mp closed
    exact List.forall_mem_cons.mpr ⟨first.exact here, others.exact later⟩

end

/-! ### Events -/

variable {fields : Fields}

/-- The fields of a line can be read back. -/
theorem exact_fields (distinct : (Entries.keys fields).Nodup) : (Json.ofFields fields).Exact := by
  refine .object ?_ fun member among => ?_
  · rw [Entries.keys, List.map_map]
    exact distinct
  · obtain ⟨entry, -, rfl⟩ := List.mem_map.mp among
    exact .text entry.2

/-- Every event can be read back. -/
theorem exact_event (clock : Time.Moment) (distinct : (Entries.keys fields).Nodup) :
    (ofFields clock fields).value.Exact := by
  obtain ⟨members, -, draft, event⟩ := exists_draft_ofFields clock fields
  obtain ⟨conforming, -⟩ := draft.kept
  have additional : (objectOf [("parsed_fields", Json.ofFields fields)]).Exact :=
    .object (List.nodup_singleton _) (List.forall_mem_singleton.mpr (exact_fields distinct))
  rw [event]
  refine .object ?_ (List.forall_mem_append.mpr
    ⟨conforming.exact (by decide), List.forall_mem_singleton.mpr additional⟩)
  -- The names are some of those of the schema, in its order.
  have names : (Entries.keys (Json.pruneMembers members ++
      [("additional".toList, objectOf [("parsed_fields", Json.ofFields fields)])])).Sublist
        (((prunedSections.map Prod.fst) ++ ["additional"]).map String.toList) := by
    rw [Entries.keys, List.map_append, List.map_append]
    exact conforming.keys_sublist.append (List.Sublist.refl _)
  exact names.nodup (by decide)

/-! ### Blocks -/

/-- The line that opens a block. -/
def opening : Text :=
  "```json".toList

/-- The line that closes a block. -/
def closing : Text :=
  "```".toList

/-- The lines between the first line that opens a block and the next one that closes it, and the
lines behind the block. -/
def block? (lines : List Text) : Option (List Text × List Text) := do
  let (_, inside) ← Text.upTo? opening lines
  Text.upTo? closing inside

/-- Lines that show a value: they are in printable ASCII, and together they are read as the value. -/
def Shows (lines : List Text) (value : Json) : Prop :=
  (∀ line ∈ lines, ∀ char ∈ line, Json.IsPrintable char) ∧
    Json.read? (Text.join ['\n'] lines) = some value

theorem shows_print {value : Json} (exact : value.Exact) :
    Shows (Text.splitOn '\n' value.print) value := by
  refine ⟨fun line among => ((Json.tidy_printAt exact 0).lines line among).1, ?_⟩
  rw [Text.join_splitOn, Json.read?_print exact]

/-- No line of a printed value closes a block. -/
theorem closing_not_mem {value : Json} (exact : value.Exact) :
    closing ∉ Text.splitOn '\n' value.print := fun among =>
  ((Json.tidy_printAt exact 0).lines closing among).2 rfl

/-- A value stands between the fences on lines of its own, and an empty line follows. -/
theorem jsonBlock_eq (value : Json) : jsonBlock value =
    opening ++ '\n' :: (value.print ++ '\n' :: (closing ++ ['\n', '\n'])) := by
  have openingLine : "```json\n".toList = opening ++ ['\n'] := by decide
  have closingLine : "\n```\n\n".toList = '\n' :: closing ++ ['\n', '\n'] := by decide
  unfold jsonBlock
  rw [openingLine, closingLine]
  simp only [List.append_assoc, List.cons_append, List.nil_append]

/-- A value between fences is found as the lines of what is printed of it. -/
theorem block?_fenced {before : Text} (ends : before.getLast? = some '\n')
    (unopened : opening ∉ Text.splitOn '\n' before) {value : Json} (exact : value.Exact)
    (behind : Text) : block? (Text.splitOn '\n' (before ++ (jsonBlock value ++ behind))) =
      some (Text.splitOn '\n' value.print, Text.splitOn '\n' ('\n' :: behind)) := by
  obtain ⟨start, rfl⟩ := List.getLast?_eq_some_iff.mp ends
  rw [Text.splitOn_append_cons, List.mem_append, not_or] at unopened
  have lines : Text.splitOn '\n' (start ++ ['\n'] ++ (jsonBlock value ++ behind)) =
      Text.splitOn '\n' start ++ opening ::
        (Text.splitOn '\n' value.print ++ closing :: Text.splitOn '\n' ('\n' :: behind)) := by
    simp only [jsonBlock_eq, List.append_assoc, List.cons_append, List.nil_append,
      Text.splitOn_append_cons]
    rfl
  rw [lines, block?, Text.upTo?_append_cons unopened.1]
  exact Text.upTo?_append_cons (closing_not_mem exact) _

/-! ### Explanations -/

/-- What an explanation says before it shows the fields. -/
def beforeFields : Text :=
  "## UDM Mapping Explanation\n\n".toList ++ "### Parsed Fields\n\n".toList ++
    "The following fields were extracted from the raw log:\n\n".toList

/-- What an explanation says between the fields and the event. -/
def beforeEvent : Text :=
  "### UDM Event Structure\n\n".toList ++
    "The parsed fields were mapped to the UDM model as follows:\n\n".toList

theorem exists_explain_eq (fields : Fields) (event : Json) : ∃ last, explain fields event =
    beforeFields ++ (jsonBlock (Json.ofFields fields) ++
      (beforeEvent ++ (jsonBlock event ++ last))) := by
  unfold explain beforeFields beforeEvent
  simp only [List.append_assoc]
  exact ⟨_, rfl⟩

/-- **The two documents of an explanation.** The first block of an explanation shows the fields of
the line and the second one the event that is made of them, whatever the fields hold. -/
theorem explain_blocks (clock : Time.Moment) (distinct : (Entries.keys fields).Nodup) :
    ∃ first middle second last,
      block? (Text.splitOn '\n' (explain fields (ofFields clock fields).value)) = some (first, middle) ∧
        block? middle = some (second, last) ∧ Shows first (Json.ofFields fields) ∧
          Shows second (ofFields clock fields).value := by
  have fieldsExact := exact_fields distinct
  have eventExact := exact_event clock distinct
  obtain ⟨last, whole⟩ := exists_explain_eq fields (ofFields clock fields).value
  have first := block?_fenced (by decide) (by decide : opening ∉ Text.splitOn '\n' beforeFields)
    fieldsExact (beforeEvent ++ (jsonBlock (ofFields clock fields).value ++ last))
  have second := block?_fenced (by decide)
    (by decide : opening ∉ Text.splitOn '\n' ('\n' :: beforeEvent))
    eventExact last
  rw [whole]
  exact ⟨_, _, _, _, first, second, shows_print fieldsExact, shows_print eventExact⟩

/-- Fields with fences, line breaks, quotes, a control character and one beyond the basic plane, in
their values and in a name. -/
def fencedFields : Fields :=
  [("client_ip".toList, "```".toList),
   ("message".toList, "first\n```\n\n```json\n\"second\"\n```\n".toList),
   ("```\n\u2028".toList, "\\\x07\u00e9😀".toList)]

theorem explain_blocks_fenced : (Entries.keys fencedFields).Nodup ∧ ∃ first middle second last,
    block? (Text.splitOn '\n' (explain fencedFields
        (ofFields ⟨⟨2026, 1, 1⟩, ⟨0, 0, 0, 0⟩, none⟩ fencedFields).value)) = some (first, middle) ∧
      block? middle = some (second, last) ∧ Shows first (Json.ofFields fencedFields) ∧
        Shows second (ofFields ⟨⟨2026, 1, 1⟩, ⟨0, 0, 0, 0⟩, none⟩ fencedFields).value := by
  have distinct : (Entries.keys fencedFields).Nodup := by decide
  exact ⟨distinct, explain_blocks _ distinct⟩

end GrokEvents.Event
