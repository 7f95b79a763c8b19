/-
**What the groups of a node find.**

A reading is followed to the texts that the groups keep. Findings compose along the tree of an
expression like readings do, each beside the text that really follows, and the finding of a whole
expression from the start of a subject is what a search finds.

* `Finds.seq_of_opens`, `Finds.capture`, `Finds.optional`: the findings of compound nodes.
* `Admits`: a node may consume a text, be it the first way that leads on or not.
* `exists_of_searchFrom`: what a search finds, the step finds from a place of the subject on.
* `Finds.fields?`: the named groups of a search.
-/

import GrokEvents.Proofs.Expr.Reading
import Mathlib.Data.List.Basic

namespace GrokEvents.Expr

/-! ### Kept texts -/

/-- The text that a group keeps of a subject. -/
def Captures.text? (captures : Captures) (subject : Text) (group : Nat) : Option Text :=
  (captures.ends? group).map (slice subject)

theorem slice_between (done text rest : Text) :
    slice (done ++ text ++ rest) (done.length, (done ++ text).length) = text := by
  rw [slice, List.append_assoc, List.drop_left, List.length_append, Nat.add_sub_cancel_left,
    List.take_left]

namespace Captures

variable {captures : Captures} {group other opened closed : Nat}

theorem length_mark (captures : Captures) (group opened closed : Nat) :
    (captures.mark group opened closed).length = captures.length :=
  List.length_modify ..

theorem text?_mark_self (within : group - 1 < captures.length) (done text rest : Text) :
    (captures.mark group done.length (done ++ text).length).text? (done ++ text ++ rest) group =
      some text := by
  have ordered : done.length ≤ (done ++ text).length := by
    rw [List.length_append]
    omega
  rw [text?, ends?, mark, List.getElem?_modify_eq, List.getElem?_eq_getElem within]
  dsimp only [Option.map_eq_map, Option.map_some]
  rw [if_pos ordered, Option.map_some, slice_between]

theorem text?_mark_other (different : group - 1 ≠ other - 1) (opened closed : Nat) (subject : Text) :
    (captures.mark group opened closed).text? subject other = captures.text? subject other := by
  rw [text?, text?, ends?, ends?, mark, List.getElem?_modify_ne _ _ different]

end Captures

/-! ### Findings -/

/-- A node reads a text of the subject, before what asks for `next`, and its groups keep the texts that
are found, the last first. Other groups keep what they kept. -/
def Finds (subject : Subject) (groups : Nat) (next : Option Char) (node : Node)
    (done text rest : Text) (found : Entries Nat Text) : Prop :=
  subject.text = done ++ text ++ rest → ∀ before : Captures, before.length = groups →
    ∃ after : Captures, after.length = groups ∧ Reads subject next node done text rest before after ∧
      ∀ group, 0 < group →
        after.text? subject.text group =
          (Entries.get? group found).or (before.text? subject.text group)

variable {subject : Subject} {groups : Nat} {next ahead : Option Char} {done one two text rest : Text}
  {found later : Entries Nat Text}

/-- A node without groups finds nothing. -/
theorem Finds.of_reads {node : Node}
    (reads : subject.text = done ++ text ++ rest →
      ∀ captures, Reads subject next node done text rest captures captures) :
    Finds subject groups next node done text rest [] :=
  fun whole before size => ⟨before, size, reads whole before, fun _ _ => rfl⟩

theorem finds_literal {char : Char} :
    Finds subject groups next (.one (.literal char)) done [char] rest [] :=
  .of_reads fun _ _ => reads_literal

namespace Finds

theorem seq_of_opens {first second : Node}
    (finds : Finds subject groups ahead first done one (two ++ rest) found)
    (opens : Opens subject ahead second)
    (onward : Finds subject groups next second (done ++ one) two rest later) :
    Finds subject groups next (.seq first second) done (one ++ two) rest (later ++ found) := by
  intro whole before size
  have firstWhole : subject.text = done ++ one ++ (two ++ rest) := by
    rw [whole]
    simp only [List.append_assoc]
  have secondWhole : subject.text = done ++ one ++ two ++ rest := by
    rw [whole]
    simp only [List.append_assoc]
  obtain ⟨middle, size, reads, keeps⟩ := finds firstWhole before size
  obtain ⟨after, size, reads', keeps'⟩ := onward secondWhole middle size
  refine ⟨after, size, reads.seq_of_opens opens reads', fun group positive => ?_⟩
  rw [keeps' group positive, keeps group positive, Entries.get?_append, Option.or_assoc]

theorem seq {first second : Node}
    (finds : Finds subject groups none first done one (two ++ rest) found)
    (onward : Finds subject groups next second (done ++ one) two rest later) :
    Finds subject groups next (.seq first second) done (one ++ two) rest (later ++ found) :=
  seq_of_opens finds (fun _ => trivial) onward

/-- A literal is read on the way to what finds something. -/
theorem behind_literal {char : Char} {second : Node}
    (onward : Finds subject groups next second (done ++ [char]) two rest later) :
    Finds subject groups next (.seq (.one (.literal char)) second) done ([char] ++ two) rest later := by
  have row := finds_literal.seq onward
  rw [List.append_nil] at row
  exact row

/-- What reads all that a node reads, with the same groups, finds all that the node finds. -/
theorem imp {first second : Node} (finds : Finds subject groups next first done text rest found)
    (onward : ∀ before after, Reads subject next first done text rest before after →
      Reads subject next second done text rest before after) :
    Finds subject groups next second done text rest found := by
  intro whole before size
  obtain ⟨after, size, reads, keeps⟩ := finds whole before size
  exact ⟨after, size, onward before after reads, keeps⟩

theorem alt_first {first : Node} (finds : Finds subject groups next first done text rest found)
    (second : Node) : Finds subject groups next (.alt first second) done text rest found :=
  finds.imp fun _ _ reads => reads.alt_first second

theorem alt_second {first second : Node}
    (blocked : ∀ captures, Blocked subject first ⟨.between done (text ++ rest), captures⟩)
    (finds : Finds subject groups next second done text rest found) :
    Finds subject groups next (.alt first second) done text rest found :=
  finds.imp fun before _ => .alt_second (blocked before)

theorem optional {body : Node} (compound : ∀ set, body ≠ .one set)
    (finds : Finds subject groups next body done text rest found) :
    Finds subject groups next (.loop .greedy 0 (some 1) body) done text rest found :=
  finds.imp fun _ _ => reads_optional compound

/-- What is read behind a mark is found in the group. -/
theorem of_mark {group : Nat} (within : group - 1 < groups) {node : Node}
    (reads : subject.text = done ++ text ++ rest → ∀ captures,
      Reads subject next node done text rest captures
        (captures.mark group done.length (done ++ text).length)) (positive : 0 < group) :
    Finds subject groups next node done text rest [(group, text)] := by
  intro whole before size
  refine ⟨_, (Captures.length_mark ..).trans size, reads whole before, fun other isOther => ?_⟩
  rw [Entries.get?]
  by_cases same : group = other
  · rw [if_pos same, ← same, whole, Captures.text?_mark_self (size ▸ within)]
    rfl
  · rw [if_neg same, Captures.text?_mark_other (by omega)]
    rfl

/-- A group without groups inside finds the text that its body reads. -/
theorem capture {group : Nat} (positive : 0 < group) (within : group - 1 < groups) {body : Node}
    (reads : subject.text = done ++ text ++ rest →
      ∀ captures, Reads subject next body done text rest captures captures) :
    Finds subject groups next (.capture group body) done text rest [(group, text)] :=
  of_mark within (fun whole _ => .capture (reads whole)) positive

end Finds

/-! ### Admitted texts -/

/-- A node may consume a text of the subject, before what asks for `next`: if what follows finds
something behind this text, then something is found. -/
def Admits (subject : Subject) (groups : Nat) (next : Option Char) (node : Node)
    (done text rest : Text) : Prop :=
  subject.text = done ++ text ++ rest → ∀ before : Captures, before.length = groups →
    ∃ after : Captures, after.length = groups ∧ ∀ follow, Asks next follow →
      (follow ⟨.between (done ++ text) rest, after⟩).isSome = true →
        (node.step subject ⟨.between done (text ++ rest), before⟩ follow).isSome = true

theorem Finds.admits {node : Node} (finds : Finds subject groups next node done text rest found) :
    Admits subject groups next node done text rest := by
  intro whole before size
  obtain ⟨after, size, reads, -⟩ := finds whole before size
  refine ⟨after, size, fun follow asks goes => ?_⟩
  rw [reads follow asks goes]
  exact goes

namespace Admits

theorem seq_of_opens {first second : Node}
    (admits : Admits subject groups ahead first done one (two ++ rest))
    (opens : Opens subject ahead second)
    (onward : Admits subject groups next second (done ++ one) two rest) :
    Admits subject groups next (.seq first second) done (one ++ two) rest := by
  intro whole before size
  obtain ⟨middle, size, leads⟩ := admits (by simp only [whole, List.append_assoc]) before size
  obtain ⟨after, size, leads'⟩ := onward (by simp only [whole, List.append_assoc]) middle size
  refine ⟨after, size, fun follow asks goes => ?_⟩
  rw [← List.append_assoc] at goes
  rw [List.append_assoc one two rest]
  exact leads _ (opens follow) (leads' follow asks goes)

theorem seq {first second : Node}
    (admits : Admits subject groups none first done one (two ++ rest))
    (onward : Admits subject groups next second (done ++ one) two rest) :
    Admits subject groups next (.seq first second) done (one ++ two) rest :=
  seq_of_opens admits (fun _ => trivial) onward

theorem behind_literal {char : Char} {second : Node}
    (onward : Admits subject groups next second (done ++ [char]) two rest) :
    Admits subject groups next (.seq (.one (.literal char)) second) done ([char] ++ two) rest :=
  finds_literal.admits.seq onward

theorem alt_second {second : Node} (admits : Admits subject groups next second done text rest)
    (first : Node) : Admits subject groups next (.alt first second) done text rest := by
  intro whole before size
  obtain ⟨after, size, leads⟩ := admits whole before size
  refine ⟨after, size, fun follow asks goes => ?_⟩
  show (firstOf (first.step subject _ follow) fun _ => second.step subject _ follow).isSome = true
  cases first.step subject _ follow with
  | none => exact leads follow asks goes
  | some found => rfl

end Admits

/-- A lazy loop that has to take nothing stays where what follows goes on. -/
theorem creep_of_isSome {set : CharSet} {most : Option Nat} {captures : Captures} {follow : Rest}
    {cursor : Cursor} (goes : (follow ⟨cursor, captures⟩).isSome = true) (after : Text) :
    creep set captures follow after 0 most cursor = follow ⟨cursor, captures⟩ := by
  cases after with
  | nil =>
    rw [creep, if_pos rfl]
    exact firstOf_of_isSome goes _
  | cons char left =>
    rw [creep, if_pos rfl]
    exact firstOf_of_isSome goes _

/-- A lazy loop over a set may go as far as its characters do. -/
theorem admits_lazy {set : CharSet} (all : ∀ char ∈ text, set.contains char = true) :
    Admits subject groups next (.loop .lazy 0 none (.one set)) done text rest := by
  intro whole before size
  refine ⟨before, size, fun follow _ goes => ?_⟩
  show (creep set before follow (text ++ rest) 0 none (.between done (text ++ rest))).isSome = true
  clear whole size
  induction text generalizing done with
  | nil =>
    rw [List.append_nil] at goes
    rw [List.nil_append, creep_of_isSome goes]
    exact goes
  | cons char text ih =>
    obtain ⟨contained, others⟩ := List.forall_mem_cons.mp all
    rw [List.cons_append, creep, if_pos rfl]
    cases follow ⟨.between done (char :: (text ++ rest)), before⟩ with
    | some found => rfl
    | none =>
      show (if goesOn none && set.contains char then creep set before follow (text ++ rest) 0 none
        ((Cursor.between done (char :: (text ++ rest))).next char (text ++ rest))
        else none).isSome = true
      rw [contained, Cursor.next_between, if_pos (by rfl)]
      refine ih others ?_
      rw [List.append_assoc]
      exact goes

/-! ### Searching -/

theorem text?_unset (groups group : Nat) (subject : Text) :
    Captures.text? (List.replicate groups {}) subject group = none := by
  rw [Captures.text?, Captures.ends?, List.getElem?_replicate]
  by_cases within : group - 1 < groups
  · rw [if_pos within]
    rfl
  · rw [if_neg within]
    rfl

/-- A node that reads a text from its start is found there. -/
theorem searchFrom_of_step {step : Step} {unset : Captures} {text : Text} {cursor : Cursor}
    {found : Progress} (matched : step ⟨cursor, unset⟩ some = some found) :
    searchFrom step unset text cursor = some found := by
  cases text with
  | nil => exact matched
  | cons char rest =>
    rw [searchFrom, matched]
    rfl

/-- A search passes over the places where the step leads nowhere. -/
theorem searchFrom_append {step : Step} {unset : Captures} {passed : Text}
    (fails : ∀ first char others, passed = first ++ char :: others →
      step ⟨.between (done ++ first) (char :: others ++ rest), unset⟩ some = none) :
    searchFrom step unset (passed ++ rest) (.between done (passed ++ rest)) =
      searchFrom step unset rest (.between (done ++ passed) rest) := by
  induction passed generalizing done with
  | nil => rw [List.append_nil, List.nil_append]
  | cons char passed ih =>
    have here := fails [] char passed rfl
    rw [List.append_nil] at here
    rw [List.cons_append] at here ⊢
    rw [searchFrom, here, Cursor.next_between]
    show searchFrom step unset (passed ++ rest) _ = _
    rw [ih, List.append_assoc, List.singleton_append]
    intro first other others same
    rw [List.append_assoc, List.singleton_append]
    exact fails (char :: first) other others (congrArg _ same)

/-- What a search finds, the step finds from a place of the subject on. -/
theorem exists_of_searchFrom {step : Step} {unset : Captures} {found : Progress}
    (searched : searchFrom step unset rest (.between done rest) = some found) :
    ∃ passed after, done ++ rest = passed ++ after ∧
      step ⟨.between passed after, unset⟩ some = some found := by
  induction rest generalizing done with
  | nil => exact ⟨done, [], rfl, searched⟩
  | cons char rest ih =>
    rw [searchFrom, Cursor.next_between] at searched
    rcases firstOf_eq_some searched with here | later
    · exact ⟨done, char :: rest, rfl, here⟩
    · obtain ⟨passed, after, same, matched⟩ := ih later
      rw [List.append_assoc] at same
      exact ⟨passed, after, same, matched⟩

/-- **A search finds what the whole expression finds** from the start of the subject to its end. -/
theorem Finds.fields? {expression : Expression} {line : Text}
    (finds : Finds { text := line } expression.groupCount none expression.node [] line [] found)
    (positive : ∀ entry ∈ expression.names, 0 < entry.2) :
    expression.fields? line = some (expression.names.filterMap fun entry =>
      (Entries.get? entry.2 found).map fun text => (entry.1, text)) := by
  have whole : line = [] ++ line ++ [] := by
    rw [List.append_nil, List.nil_append]
  obtain ⟨after, -, reads, keeps⟩ := finds whole _ List.length_replicate
  have start : Cursor.between [] (line ++ []) = .start line := by
    rw [List.append_nil]
    rfl
  have matched := reads some trivial rfl
  rw [start] at matched
  rw [Expression.fields?, Expression.search, searchFrom_of_step matched, Option.map_some,
    Option.map_some]
  refine congrArg some (List.filterMap_congr fun entry member => ?_)
  have kept := keeps entry.2 (positive entry member)
  rw [text?_unset, Option.or_none] at kept
  rw [← kept, Captures.text?, Option.map_map]
  rfl

end GrokEvents.Expr
