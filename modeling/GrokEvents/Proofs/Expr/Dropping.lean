/-
**Dropping a group.**

A group may be dropped from an expression and its body kept, with the groups behind it moved up by
one. The expression without the group goes the same ways as before: at each moment it stands at the
same place with the same captures, but for those of the group that is missing.

* `Node.renumber`: a node whose groups have other numbers.
* `Mirrors`: one step does without a group what another one does with it.
* `mirrors_step`: a node with its groups moved up does the same, whatever stands in it.
* `mirrors_capture`: so does a body without the group around it.
* `Drops.fields?`: what is found without the group.
* `drops_group`: a named group of a phrase may be dropped.
-/

import Mathlib.Data.List.Basic
import GrokEvents.Expr.Matching
import GrokEvents.Proofs.Expr.Phrase

namespace GrokEvents.Expr

/-! ### Numbers of groups -/

/-- The number of a group where one more group has its captures at an index. -/
def skip (index group : Nat) : Nat :=
  if group - 1 < index then group else group - 1 + 2

/-- A node whose groups have other numbers. -/
def Node.renumber (number : Nat → Nat) : Node → Node
  | .empty => .empty
  | .one set => .one set
  | .anchor condition => .anchor condition
  | .seq first second => .seq (first.renumber number) (second.renumber number)
  | .alt first second => .alt (first.renumber number) (second.renumber number)
  | .capture group body => .capture (number group) (body.renumber number)
  | .loop appetite least most body => .loop appetite least most (body.renumber number)
  | .ahead negated body => .ahead negated (body.renumber number)
  | .behind width negated body => .behind width negated (body.renumber number)
  | .atomic body => .atomic (body.renumber number)
  | .recall group foldCase wide => .recall (number group) foldCase wide
  | .choose group present absent =>
    .choose (number group) (present.renumber number) (absent.renumber number)

theorem Node.renumber_ofList (number : Nat → Nat) (nodes : List Node) :
    (Node.ofList nodes).renumber number = .ofList (nodes.map (Node.renumber number)) := by
  fun_induction Node.ofList nodes with
  | case1 => rfl
  | case2 => rfl
  | case3 first rest other ih =>
    cases rest with
    | nil => exact absurd rfl other
    | cons second rest => rw [renumber, ih]; rfl

theorem skip_pred_of_lt {index group : Nat} (before : group - 1 < index) :
    skip index group - 1 = group - 1 := by
  rw [skip, if_pos before]

theorem skip_pred_of_not_lt {index group : Nat} (behind : ¬ group - 1 < index) :
    skip index group - 1 = group - 1 + 1 := by
  rw [skip, if_neg behind]
  rfl

variable {index : Nat}

/-- The ends of a group are those it has without the other one. -/
theorem ends?_eraseIdx (captures : Captures) (group : Nat) :
    Captures.ends? (captures.eraseIdx index) group = captures.ends? (skip index group) := by
  unfold Captures.ends?
  rw [List.getElem?_eraseIdx]
  by_cases before : group - 1 < index
  · rw [if_pos before, skip_pred_of_lt before]
  · rw [if_neg before, skip_pred_of_not_lt before]

theorem modify_eraseIdx (captures : Captures) (group : Nat) (change : Span → Span) :
    (captures.modify (skip index group - 1) change).eraseIdx index =
      (captures.eraseIdx index).modify (group - 1) change := by
  by_cases before : group - 1 < index
  · rw [skip_pred_of_lt before, List.eraseIdx_modify_of_gt change _ _ _ before]
  · rw [skip_pred_of_not_lt before, List.eraseIdx_modify_of_lt change _ _ _ (by omega)]
    rfl

/-! ### Steps with and without a group -/

/-- A place with what was captured on the way, but for the captures at an index. -/
def Progress.without (index : Nat) (progress : Progress) : Progress :=
  ⟨progress.cursor, progress.captures.eraseIdx index⟩

/-- What follows without a group is what follows with it. -/
def Alike (index : Nat) (bare full : Rest) : Prop :=
  ∀ progress, bare (progress.without index) = (full progress).map (Progress.without index)

/-- One step does without a group what another one does with it. -/
def Mirrors (index : Nat) (bare full : Step) : Prop :=
  ∀ ⦃after behind : Rest⦄, Alike index after behind → ∀ progress,
    bare (progress.without index) after = (full progress behind).map (Progress.without index)

@[simp]
theorem Progress.cursor_without (index : Nat) (progress : Progress) :
    (progress.without index).cursor = progress.cursor := rfl

theorem alike_some : Alike index some some := fun _ => rfl

theorem map_firstOf (change : Progress → Progress) (first : Option Progress)
    (second : Unit → Option Progress) : (firstOf first second).map change =
      firstOf (first.map change) fun _ => (second ()).map change := by
  cases first <;> rfl

/-! ### Loops over one character -/

section Loops

variable {after behind : Rest} (alike : Alike index after behind)

include alike

theorem creep_eraseIdx (set : CharSet) (captures : Captures) (ahead : Text) (least : Nat)
    (most : Option Nat) (cursor : Cursor) :
    creep set (captures.eraseIdx index) after ahead least most cursor =
      (creep set captures behind ahead least most cursor).map (Progress.without index) := by
  have here (cursor : Cursor) : after ⟨cursor, captures.eraseIdx index⟩ =
      (behind ⟨cursor, captures⟩).map (Progress.without index) := alike ⟨cursor, captures⟩
  induction ahead generalizing least most cursor with
  | nil =>
    rw [creep, creep, map_firstOf, apply_ite (Option.map _), here]
    rfl
  | cons char left ih =>
    rw [creep, creep, map_firstOf, apply_ite (Option.map _), apply_ite (Option.map _), here, ih]
    rfl

theorem findSome?_eraseIdx (captures : Captures) (places : List Cursor) :
    places.findSome? (fun cursor => after ⟨cursor, captures.eraseIdx index⟩) =
      (places.findSome? fun cursor => behind ⟨cursor, captures⟩).map (Progress.without index) := by
  rw [List.map_findSome?]
  congr 1
  funext cursor
  exact alike ⟨cursor, captures⟩

end Loops

theorem mirrors_loopOne (appetite : Appetite) (least : Nat) (most : Option Nat) (set : CharSet) :
    Mirrors index (loopOne appetite least most set) (loopOne appetite least most set) := by
  intro after behind alike progress
  obtain ⟨cursor, captures⟩ := progress
  unfold loopOne Progress.without
  dsimp only
  cases appetite with
  | greedy => exact findSome?_eraseIdx alike captures _
  | lazy => exact creep_eraseIdx alike set captures _ least most cursor
  | possessive =>
    dsimp only
    split
    · exact alike ⟨_, captures⟩
    · rfl

/-! ### Loops over any body -/

section Rounds

variable {bare full : Step} (mirrors : Mirrors index bare full)

include mirrors

theorem mirrors_loopGreedy (least : Nat) (most : Option Nat) (fuel count : Nat) (last : Option Nat) :
    Mirrors index (loopGreedy bare least most fuel count last)
      (loopGreedy full least most fuel count last) := by
  intro after behind alike
  induction fuel generalizing count last with
  | zero => exact fun _ => rfl
  | succ fuel ih =>
    intro progress
    have onward (last : Option Nat) :
        Alike index (loopGreedy bare least most fuel (count + 1) last · after)
        (loopGreedy full least most fuel (count + 1) last · behind) := ih (count + 1) last
    rw [loopGreedy, loopGreedy, Progress.cursor_without, apply_ite (Option.map _),
      apply_ite (Option.map _), map_firstOf, ← mirrors (onward _), ← mirrors (onward _),
      ← alike progress]

theorem mirrors_loopLazy (least : Nat) (most : Option Nat) (fuel count : Nat) (last : Option Nat) :
    Mirrors index (loopLazy bare least most fuel count last)
      (loopLazy full least most fuel count last) := by
  intro after behind alike
  induction fuel generalizing count last with
  | zero => exact fun _ => rfl
  | succ fuel ih =>
    intro progress
    have onward (last : Option Nat) :
        Alike index (loopLazy bare least most fuel (count + 1) last · after)
        (loopLazy full least most fuel (count + 1) last · behind) := ih (count + 1) last
    rw [loopLazy, loopLazy, Progress.cursor_without, apply_ite (Option.map _), map_firstOf,
      apply_ite (Option.map _), ← mirrors (onward _), ← mirrors (onward _), ← alike progress]
    rfl

theorem mirrors_loopPossessive (least : Nat) (most : Option Nat) (fuel count : Nat)
    (last : Option Nat) (progress : Progress) :
    loopPossessive bare least most fuel count last (progress.without index) =
      (loopPossessive full least most fuel count last progress).map (Progress.without index) := by
  induction fuel generalizing count last progress with
  | zero => rfl
  | succ fuel ih =>
    rw [loopPossessive, loopPossessive, Progress.cursor_without, apply_ite (Option.map _),
      apply_ite (Option.map _), mirrors alike_some progress]
    cases full progress some with
    | none => rfl
    | some reached =>
      dsimp only [Option.map_some, Option.bind_some]
      rw [ih, ih]

theorem mirrors_loopAny (size : Nat) (appetite : Appetite) (least : Nat) (most : Option Nat) :
    Mirrors index (loopAny size appetite least most bare) (loopAny size appetite least most full) := by
  intro after behind alike progress
  unfold loopAny
  cases appetite with
  | greedy => exact mirrors_loopGreedy mirrors least most _ 0 none alike progress
  | lazy => exact mirrors_loopLazy mirrors least most _ 0 none alike progress
  | possessive =>
    dsimp only
    rw [mirrors_loopPossessive mirrors]
    cases loopPossessive full least most (least + size + 2) 0 none progress with
    | none => rfl
    | some reached => exact alike reached

end Rounds

/-! ### Nodes -/

/-- A body without a group around it does what the group does, but for the captures of the group. -/
theorem mirrors_capture {subject : Subject} {bare full : Node}
    (mirrors : Mirrors index (bare.step subject) (full.step subject)) :
    Mirrors index (bare.step subject) ((Node.capture (index + 1) full).step subject) := by
  intro after behind alike progress
  have unmarked (cursor : Cursor) (captures : Captures) (change : Span → Span) :
      Progress.without index ⟨cursor, captures.modify (index + 1 - 1) change⟩ =
        Progress.without index ⟨cursor, captures⟩ :=
    congrArg (Progress.mk cursor) (List.eraseIdx_modify_of_eq change index captures)
  rw [Node.step, ← mirrors, unmarked]
  intro reached
  rw [← alike, unmarked]

/-- A look around goes on alike, whether it has to see something or nothing. -/
theorem look_without {after behind : Rest} (alike : Alike index after behind) (negated : Bool)
    (progress : Progress) {bare full : Option Progress}
    (same : bare = full.map (Progress.without index)) :
    (match bare with
      | some found => if negated then none else after ⟨progress.cursor, found.captures⟩
      | none => if negated then after (progress.without index) else none) =
      (match full with
        | some found => if negated then none else behind ⟨progress.cursor, found.captures⟩
        | none => if negated then behind progress else none).map (Progress.without index) := by
  subst same
  cases full with
  | none =>
    dsimp only [Option.map_none]
    rw [apply_ite (Option.map _), ← alike]
    rfl
  | some found =>
    dsimp only [Option.map_some]
    rw [apply_ite (Option.map _), ← alike]
    rfl

/-- **A node with its groups moved up does what it did**, for one capture more. -/
theorem mirrors_step (subject : Subject) (node : Node) :
    Mirrors index (node.step subject) ((node.renumber (skip index)).step subject) := by
  induction node with
  | empty => exact fun _ _ alike => alike
  | one set =>
    intro after behind alike progress
    rw [Node.renumber, Node.step, Node.step, Progress.cursor_without]
    cases progress.cursor.after with
    | nil => rfl
    | cons char left =>
      rw [apply_ite (Option.map _), ← alike]
      rfl
  | anchor condition =>
    intro after behind alike progress
    rw [Node.renumber, Node.step, Node.step, apply_ite (Option.map _), Progress.cursor_without, ← alike]
    rfl
  | seq first second one two =>
    intro after behind alike
    exact one (two alike)
  | alt first second one two =>
    intro after behind alike progress
    rw [Node.renumber, Node.step, Node.step, map_firstOf, ← one alike, ← two alike]
  | capture group body mirrors =>
    intro after behind alike progress
    have marked (cursor : Cursor) (captures : Captures) (change : Span → Span) :
        Progress.without index ⟨cursor, captures.modify (skip index group - 1) change⟩ =
          ⟨cursor, (captures.eraseIdx index).modify (group - 1) change⟩ :=
      congrArg (Progress.mk cursor) (modify_eraseIdx captures group change)
    rw [Node.renumber, Node.step, Node.step, ← mirrors, marked]
    · rfl
    · intro reached
      rw [← alike, marked]
      rfl
  | loop appetite least most body mirrors =>
    intro after behind alike progress
    rw [Node.renumber]
    cases body with
    | one set => exact mirrors_loopOne appetite least most set alike progress
    | _ => exact mirrors_loopAny mirrors subject.size appetite least most alike progress
  | ahead negated body mirrors =>
    intro after behind alike progress
    exact look_without alike negated progress (mirrors alike_some progress)
  | behind width negated body mirrors =>
    intro after behind alike progress
    refine look_without alike negated progress ?_
    rw [Progress.cursor_without]
    cases progress.cursor.back? width with
    | none => rfl
    | some cursor => exact mirrors alike_some ⟨cursor, progress.captures⟩
  | atomic body mirrors =>
    intro after behind alike progress
    rw [Node.renumber, Node.step, Node.step, mirrors alike_some]
    cases (body.renumber (skip index)).step subject progress some with
    | none => rfl
    | some reached => exact alike reached
  | «recall» group foldCase wide =>
    intro after behind alike progress
    have same : Captures.ends? (progress.without index).captures group =
        Captures.ends? progress.captures (skip index group) := ends?_eraseIdx progress.captures group
    rw [Node.renumber, Node.step, Node.step, Progress.cursor_without, same]
    cases Captures.ends? progress.captures (skip index group) with
    | none => rfl
    | some ends =>
      dsimp only
      cases follow foldCase wide (slice subject.text ends) progress.cursor with
      | none => rfl
      | some cursor => exact alike ⟨cursor, progress.captures⟩
  | choose group present absent one two =>
    intro after behind alike progress
    rw [Node.renumber, Node.step, Node.step, apply_ite (Option.map _), ← one alike, ← two alike,
      ← ends?_eraseIdx]
    rfl

/-! ### Rows -/

theorem step_ofList_cons (subject : Subject) (first : Node) (rest : List Node) (progress : Progress)
    (after : Rest) : (Node.ofList (first :: rest)).step subject progress after =
      first.step subject progress fun reached => (Node.ofList rest).step subject reached after := by
  cases rest <;> rfl

theorem step_ofList_append (subject : Subject) (first second : List Node) (progress : Progress)
    (after : Rest) : (Node.ofList (first ++ second)).step subject progress after =
      (Node.ofList first).step subject progress fun reached =>
        (Node.ofList second).step subject reached after := by
  induction first generalizing progress with
  | nil => rfl
  | cons node first ih =>
    rw [List.cons_append, step_ofList_cons, step_ofList_cons]
    congr 1
    funext reached
    exact ih reached

/-- A group in a row is dropped and its body joins the row. -/
theorem mirrors_dropped (subject : Subject) {before : List Node}
    (stays : before.map (Node.renumber (skip index)) = before) (inside behind : List Node) :
    Mirrors index ((Node.ofList (before ++ (inside ++ behind))).step subject)
      ((Node.ofList (before ++
        .capture (index + 1) (.ofList (inside.map (Node.renumber (skip index)))) ::
          behind.map (Node.renumber (skip index)))).step subject) := by
  have moved (nodes : List Node) : Mirrors index ((Node.ofList nodes).step subject)
      ((Node.ofList (nodes.map (Node.renumber (skip index)))).step subject) := by
    rw [← Node.renumber_ofList]
    exact mirrors_step subject (.ofList nodes)
  have front := moved before
  rw [stays] at front
  intro after follow alike progress
  rw [step_ofList_append, step_ofList_append]
  refine front (fun reached => ?_) progress
  have back : Alike index ((Node.ofList behind).step subject · after)
      ((Node.ofList (behind.map (Node.renumber (skip index)))).step subject · follow) :=
    moved behind alike
  rw [step_ofList_append, step_ofList_cons]
  exact mirrors_capture (moved inside) back reached

/-! ### Searching -/

theorem searchFrom_eraseIdx {bare full : Step} (mirrors : Mirrors index bare full) (unset : Captures)
    (ahead : Text) (cursor : Cursor) : searchFrom bare (unset.eraseIdx index) ahead cursor =
      (searchFrom full unset ahead cursor).map (Progress.without index) := by
  have here (cursor : Cursor) : bare ⟨cursor, unset.eraseIdx index⟩ some =
      (full ⟨cursor, unset⟩ some).map (Progress.without index) := mirrors alike_some ⟨cursor, unset⟩
  induction ahead generalizing cursor with
  | nil => exact here cursor
  | cons char rest ih => rw [searchFrom, searchFrom, map_firstOf, here, ih]

/-- An expression is another one without the group that has its captures at an index and goes by a name
that no other group has. -/
structure Drops (index : Nat) (name : Text) (bare full : Expression) : Prop where
  groupCount : full.groupCount = bare.groupCount + 1
  within : index ≤ bare.groupCount
  names : full.names.filter (fun entry => entry.1 ≠ name) =
    bare.names.map fun entry => (entry.1, skip index entry.2)
  mirrors : ∀ subject, Mirrors index (bare.node.step subject) (full.node.step subject)

/-- What is written under other names does not come from the entries of a name. -/
theorem erase_filterMap {write : Text × Nat → Option (Text × Text)}
    (same : ∀ entry written, write entry = some written → written.1 = entry.1) (name : Text)
    (names : List (Text × Nat)) : Entries.erase name (names.filterMap write) =
      (names.filter fun entry => entry.1 ≠ name).filterMap write := by
  rw [Entries.erase_eq_filter, List.filter_filterMap, List.filterMap_filter]
  refine List.filterMap_congr fun entry _ => ?_
  cases written : write entry with
  | none => simp
  | some found => simp [Option.filter, same entry found written]

/-- **What is found without a group** is what is found with it, but for the text of the group. -/
theorem Drops.fields? {name : Text} {bare full : Expression} (drops : Drops index name bare full)
    (subject : Text) : bare.fields? subject = (full.fields? subject).map (Entries.erase name) := by
  have unset : List.replicate bare.groupCount ({} : Span) =
      (List.replicate full.groupCount {}).eraseIdx index := by
    rw [List.eraseIdx_replicate, drops.groupCount, if_pos (Nat.lt_succ_of_le drops.within),
      Nat.add_sub_cancel]
  have search : bare.search subject = (full.search subject).map (List.eraseIdx · index) := by
    unfold Expression.search
    dsimp only
    rw [unset, searchFrom_eraseIdx (drops.mirrors _), Option.map_map, Option.map_map]
    rfl
  unfold Expression.fields?
  rw [search, Option.map_map, Option.map_map]
  refine Option.map_congr fun captures _ => ?_
  show bare.names.filterMap _ = Entries.erase name (full.names.filterMap _)
  rw [erase_filterMap _ name, drops.names, List.filterMap_map]
  · refine List.filterMap_congr fun entry _ => ?_
    exact congrArg _ (ends?_eraseIdx captures entry.2)
  · intro entry written isWritten
    obtain ⟨ends, -, rfl⟩ := Option.map_eq_some_iff.mp isWritten
    rfl

/-! ### Phrases -/

/-- An atom has no groups. -/
theorem Atom.renumber_item {atom : Atom} {item : Item} (isItem : atom.item? = some item)
    (number : Nat → Nat) : item.node.renumber number = item.node := by
  unfold Atom.item? at isItem
  split at isItem
  · split at isItem
    · cases isItem
    · obtain rfl := Option.some.inj isItem
      unfold plainItem
      split <;> rfl
  · split at isItem
    · obtain rfl := Option.some.inj isItem
      rfl
    · obtain rfl := Option.some.inj isItem
      rfl
    · split at isItem
      · cases isItem
      · obtain rfl := Option.some.inj isItem
        rfl
  · split at isItem
    · split at isItem
      · obtain rfl := Option.some.inj isItem
        rfl
      · cases isItem
    · cases isItem

theorem Count.renumber_wrap (count : Option Count) (node : Node) (number : Nat → Nat) :
    (Count.wrap count node).renumber number = Count.wrap count (node.renumber number) := by
  cases count <;> rfl

namespace Phrase

variable {body : Phrase .choice} {count : Option Count} {rest : Phrase .row}

theorem length_names_plain : (Phrase.group none body count rest).names.length =
    body.names.length + rest.names.length := by
  simp [names]

theorem length_names_named {name : Text} : (Phrase.group (some name) body count rest).names.length =
    1 + body.names.length + rest.names.length := by
  simp only [names, Option.toList_some, List.length_append, List.length_singleton]

/-- The nodes of a phrase that stands behind more groups. -/
theorem renumber_nodes {tier : Tier} (phrase : Phrase tier) {number : Nat → Nat} {groups more : Nat}
    (moved : ∀ group, groups < group → group ≤ groups + phrase.names.length →
      number group = group + more) :
    (phrase.nodes groups).map (Node.renumber number) = phrase.nodes (groups + more) := by
  induction phrase generalizing groups with
  | empty => rfl
  | unit atom count rest ih =>
    rw [nodes, nodes, List.map_cons, ih moved, Count.renumber_wrap]
    cases isItem : atom.item? with
    | none => rfl
    | some item =>
      rw [Option.map_some, Option.getD_some, Atom.renumber_item isItem]
  | group name body count rest ihBody ihRest =>
    cases name with
    | none =>
      rw [length_names_plain] at moved
      rw [nodes, nodes, List.map_cons, Count.renumber_wrap, Node.renumber_ofList,
        ihBody fun group low high => moved group low (by omega),
        ihRest fun group low high => moved group (by omega) (by omega), Nat.add_right_comm]
    | some name =>
      rw [length_names_named] at moved
      rw [nodes, nodes, List.map_cons, Count.renumber_wrap, Node.renumber, Node.renumber_ofList,
        moved (groups + 1) (by omega) (by omega),
        ihBody fun group low high => moved group (by omega) (by omega),
        ihRest fun group low high => moved group (by omega) (by omega),
        Nat.add_right_comm (groups + 1) _ more, Nat.add_right_comm groups 1 more]
  | only row ih => exact ih moved
  | either first others ihFirst ihOthers =>
    rw [names, List.length_append] at moved
    rw [nodes, nodes, List.map_cons, Node.renumber, Node.renumber_ofList, Node.renumber_ofList,
      ihFirst fun group low high => moved group low (by omega),
      ihOthers fun group low high => moved group (by omega) (by omega), Nat.add_right_comm]
    rfl

/-- The nodes of a row and of another one behind it. -/
theorem nodes_append (more : Phrase .row) : (phrase : Phrase .row) → (groups : Nat) →
    (phrase.append more).nodes groups =
      phrase.nodes groups ++ more.nodes (groups + phrase.names.length)
  | .empty, groups => rfl
  | .unit atom count rest, groups => congrArg (_ :: ·) (nodes_append more rest groups)
  | .group none body count rest, groups => by
    rw [append, nodes, nodes, nodes_append more rest, length_names_plain, Nat.add_assoc]
    rfl
  | .group (some name) body count rest, groups => by
    rw [append, nodes, nodes, nodes_append more rest, length_names_named]
    simp only [Nat.add_assoc, List.cons_append]

end Phrase

/-! ### Dropping a group of a phrase -/

/-- The names but for the one that is dropped keep their groups, which move up behind it. -/
theorem names_dropped {before behind : List Text} {name : Text} (unused : name ∉ before ++ behind) :
    ((before ++ name :: behind).zipIdx 1).filter (fun entry => entry.1 ≠ name) =
      ((before ++ behind).zipIdx 1).map fun entry => (entry.1, skip before.length entry.2) := by
  have stays {names : List Text} (start : Nat) (within : names ⊆ before ++ behind) :
      (names.zipIdx start).filter (fun entry => entry.1 ≠ name) = names.zipIdx start := by
    refine List.filter_eq_self.mpr fun entry member => decide_eq_true fun same => unused ?_
    exact same ▸ within (List.fst_mem_of_mem_zipIdx member)
  have front : (before.zipIdx 1).map (fun entry => (entry.1, skip before.length entry.2)) =
      before.zipIdx 1 := by
    refine (List.map_congr_left fun entry member => ?_).trans (List.map_id _)
    have low := List.le_snd_of_mem_zipIdx member
    have high := List.snd_lt_of_mem_zipIdx member
    rw [skip, if_pos (by omega)]
    rfl
  have back : (behind.zipIdx (1 + before.length)).map
      (fun entry => (entry.1, skip before.length entry.2)) =
      behind.zipIdx (1 + before.length + 1) := by
    rw [List.zipIdx_succ]
    refine List.map_congr_left fun entry member => ?_
    have := List.le_snd_of_mem_zipIdx member
    rw [skip, if_neg (by omega)]
    exact congrArg _ (by omega)
  rw [List.zipIdx_append, List.zipIdx_append, List.zipIdx_cons, List.filter_append,
    List.filter_cons_of_neg (by simp), stays _ (List.subset_append_left _ _),
    stays _ (List.subset_append_right _ _), List.map_append, front, back]

/-- **A named group of a phrase may be dropped** where no other group has its name. -/
theorem drops_group {before inside behind : Phrase .row} {name : Text}
    (unused : name ∉ before.names ++ (inside.names ++ behind.names)) :
    Drops before.names.length name (before.append (inside.append behind)).expression
      (before.append (.group (some name) (.only inside) none behind)).expression := by
  have bare : (before.append (inside.append behind)).names =
      before.names ++ (inside.names ++ behind.names) := by
    rw [Phrase.names_append, Phrase.names_append]
  have full : (before.append (.group (some name) (.only inside) none behind)).names =
      before.names ++ name :: (inside.names ++ behind.names) := by
    rw [Phrase.names_append]
    rfl
  refine ⟨?_, ?_, ?_, fun subject => ?_⟩
  · show List.length _ = List.length _ + 1
    rw [bare, full, List.length_append, List.length_append, List.length_cons, Nat.add_assoc]
  · show _ ≤ List.length _
    rw [bare, List.length_append]
    exact Nat.le_add_right _ _
  · show List.filter _ (List.zipIdx _ 1) = List.map _ (List.zipIdx _ 1)
    rw [bare, full]
    exact names_dropped unused
  · let index := before.names.length
    have reached (group : Nat) (_ : 0 < group) (high : group ≤ 0 + before.names.length) :
        skip index group = group + 0 := by
      rw [skip, if_pos (by omega)]
      rfl
    have stays : (before.nodes 0).map (Node.renumber (skip index)) = before.nodes 0 :=
      before.renumber_nodes reached
    have moved (row : Phrase .row) {groups : Nat} (reached : index ≤ groups) :
        (row.nodes groups).map (Node.renumber (skip index)) = row.nodes (groups + 1) := by
      refine row.renumber_nodes fun group low high => ?_
      rw [skip, if_neg (by omega)]
      omega
    have bareNodes : (before.append (inside.append behind)).nodes 0 = before.nodes 0 ++
        (inside.nodes index ++ behind.nodes (index + inside.names.length)) := by
      rw [Phrase.nodes_append, Phrase.nodes_append, Nat.zero_add]
    have fullNodes : (before.append (.group (some name) (.only inside) none behind)).nodes 0 =
        before.nodes 0 ++ .capture (index + 1) (.ofList ((inside.nodes index).map
          (Node.renumber (skip index)))) :: (behind.nodes (index + inside.names.length)).map
            (Node.renumber (skip index)) := by
      rw [Phrase.nodes_append, Nat.zero_add, moved inside (Nat.le_refl _),
        moved behind (Nat.le_add_right _ _), Nat.add_right_comm]
      rfl
    show Mirrors index ((Node.ofList (Phrase.nodes _ 0)).step subject)
      ((Node.ofList (Phrase.nodes _ 0)).step subject)
    rw [bareNodes, fullNodes]
    exact mirrors_dropped subject stays _ _

end GrokEvents.Expr
