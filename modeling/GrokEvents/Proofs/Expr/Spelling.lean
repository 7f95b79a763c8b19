/-
**What a match consumes.**

Wherever a node leads, it has moved on over a text that it spells, and the groups it does not have keep
their spans. What a node spells is defined along its tree; conditions on the place and on the groups are
left out, so that a node may spell more than it matches.

* `Node.Spells`: the texts that a node may consume.
* `faithful_step`: a node consumes only what it spells and leaves other groups alone.
-/

import GrokEvents.Expr.Matching

namespace GrokEvents.Expr

/-! ### Spelling -/

/-- A text of so many rounds, after `count` others. The least number is always made, even if it is above
the greatest. -/
def Rounds (spells : Text → Prop) (least : Nat) (most : Option Nat) (count : Nat) (text : Text) :
    Prop :=
  ∃ rounds : List Text, (∀ round ∈ rounds, spells round) ∧ least ≤ count + rounds.length ∧
    (∀ limit, most = some limit → count + rounds.length ≤ max least limit) ∧ text = rounds.flatten

/-- A text that a node may consume. -/
def Node.Spells : Node → Text → Prop
  | .empty, text | .anchor _, text | .ahead .., text | .behind .., text => text = []
  | .one set, text => ∃ char, set.contains char = true ∧ text = [char]
  | .seq first second, text => ∃ one two, first.Spells one ∧ second.Spells two ∧ text = one ++ two
  | .alt first second, text | .choose _ first second, text => first.Spells text ∨ second.Spells text
  | .capture _ body, text | .atomic body, text => body.Spells text
  | .loop _ least most body, text => Rounds body.Spells least most 0 text
  | .recall .., _ => True

namespace Rounds

variable {spells : Text → Prop} {least count : Nat} {most : Option Nat} {text round : Text}

theorem nil (enough : least ≤ count) (within : ∀ limit, most = some limit → count ≤ max least limit) :
    Rounds spells least most count [] :=
  ⟨[], nofun, enough, within, rfl⟩

theorem cons (first : spells round) (others : Rounds spells least most (count + 1) text) :
    Rounds spells least most count (round ++ text) := by
  obtain ⟨rounds, each, enough, within, rfl⟩ := others
  refine ⟨round :: rounds, List.forall_mem_cons.mpr ⟨first, each⟩, ?_, fun limit limited => ?_, rfl⟩
  · rw [List.length_cons]
    omega
  · have := within limit limited
    rw [List.length_cons]
    omega

end Rounds

/-! ### Moving -/

/-- A move from one place on to another, over a text. The spans of certain groups stay as they are. -/
structure Moves (kept : Nat → Prop) (text : Text) (start reached : Progress) : Prop where
  after : start.cursor.after = text ++ reached.cursor.after
  before : reached.cursor.before = text.reverse ++ start.cursor.before
  position : reached.cursor.position = start.cursor.position + text.length
  spans : ∀ index, kept index → reached.captures[index]? = start.captures[index]?

/-- What is found is found behind a move over a text that is spelled. -/
def Onward (spells : Text → Prop) (kept : Nat → Prop) (start : Progress) (follow : Rest)
    (found : Progress) : Prop :=
  ∃ text reached, spells text ∧ Moves kept text start reached ∧ follow reached = some found

/-- A step that leads only over what is spelled. -/
def Faithful (spells : Text → Prop) (kept : Nat → Prop) (step : Step) : Prop :=
  ∀ progress follow found, step progress follow = some found → Onward spells kept progress follow found

namespace Moves

variable {kept : Nat → Prop} {one two : Text} {start middle reached : Progress}

theorem refl (start : Progress) : Moves kept [] start start :=
  ⟨rfl, rfl, rfl, fun _ _ => rfl⟩

theorem trans (first : Moves kept one start middle) (second : Moves kept two middle reached) :
    Moves kept (one ++ two) start reached := by
  refine ⟨?_, ?_, ?_, fun index keeps => ?_⟩
  · rw [first.after, second.after, List.append_assoc]
  · rw [second.before, first.before, List.reverse_append, List.append_assoc]
  · rw [second.position, first.position, List.length_append, Nat.add_assoc]
  · rw [second.spans index keeps, first.spans index keeps]

theorem next {cursor : Cursor} {char : Char} {rest : Text} (ahead : cursor.after = char :: rest)
    (captures : Captures) : Moves kept [char] ⟨cursor, captures⟩ ⟨cursor.next char rest, captures⟩ :=
  ⟨ahead, rfl, rfl, fun _ _ => rfl⟩

end Moves

/-! ### Loops over one character -/

variable {kept : Nat → Prop} {spells : Text → Prop} {set : CharSet} {least : Nat} {most : Option Nat}

/-- Characters of a set, as many as a loop may take. -/
structure RunOf (set : CharSet) (least : Nat) (most : Option Nat) (text : Text) : Prop where
  all : ∀ char ∈ text, set.contains char = true
  enough : least ≤ text.length
  within : ∀ limit, most = some limit → text.length ≤ limit

namespace RunOf

theorem nil (none : least = 0) : RunOf set least most [] :=
  ⟨nofun, Nat.le_of_eq none, fun _ _ => Nat.zero_le _⟩

theorem cons {text : Text} {char : Char} (goes : (goesOn most && set.contains char) = true)
    (run : RunOf set (least - 1) (afterRound most) text) : RunOf set least most (char :: text) := by
  obtain ⟨room, contained⟩ := Bool.and_eq_true_iff.mp goes
  refine ⟨List.forall_mem_cons.mpr ⟨contained, run.all⟩, ?_, fun limit limited => ?_⟩
  · have := run.enough
    rw [List.length_cons]
    omega
  · subst limited
    have := run.within (limit - 1) rfl
    simp only [goesOn, bne_iff_ne, ne_eq, Option.some.injEq] at room
    rw [List.length_cons]
    omega

/-- Each character is one round. -/
theorem rounds {text : Text} (run : RunOf set least most text) :
    Rounds (Node.one set).Spells least most 0 text := by
  refine ⟨text.map fun char => [char], ?_, ?_, fun limit limited => ?_, ?_⟩
  · intro round member
    obtain ⟨char, isIn, rfl⟩ := List.mem_map.mp member
    exact ⟨char, run.all char isIn, rfl⟩
  · have := run.enough
    rw [List.length_map]
    omega
  · have := run.within limit limited
    rw [List.length_map]
    omega
  · exact (List.flatMap_singleton' text).symm

end RunOf

/-- What a loop over a set spells is made of its characters. -/
theorem Rounds.of_one {text : Text} (spelled : Rounds (Node.one set).Spells least most 0 text) :
    (∀ char ∈ text, set.contains char = true) ∧ least ≤ text.length := by
  obtain ⟨rounds, each, enough, -, rfl⟩ := spelled
  have singles : (∀ char ∈ rounds.flatten, set.contains char = true) ∧
      rounds.flatten.length = rounds.length := by
    clear enough
    induction rounds with
    | nil => exact ⟨nofun, rfl⟩
    | cons round rounds ih =>
      obtain ⟨⟨char, contained, rfl⟩, others⟩ := List.forall_mem_cons.mp each
      obtain ⟨all, size⟩ := ih others
      exact ⟨List.forall_mem_cons.mpr ⟨contained, all⟩, congrArg Nat.succ size⟩
  exact ⟨singles.1, by omega⟩

/-- The places that a set leads to lie behind runs of its characters. -/
theorem mem_reach {after : Text} {cursor place : Cursor} {passed : List Cursor}
    (ahead : cursor.after = after) (member : place ∈ reach set after least most cursor passed)
    (captures : Captures) : place ∈ passed ∨ ∃ text, RunOf set least most text ∧
      Moves kept text ⟨cursor, captures⟩ ⟨place, captures⟩ := by
  have here {least : Nat} {most : Option Nat} {cursor : Cursor} {passed : List Cursor}
      (isIn : place ∈ if least = 0 then cursor :: passed else passed) :
      place ∈ passed ∨ ∃ text, RunOf set least most text ∧
        Moves kept text ⟨cursor, captures⟩ ⟨place, captures⟩ := by
    split at isIn
    · rename_i none
      rcases List.mem_cons.mp isIn with rfl | old
      · exact .inr ⟨[], .nil none, .refl _⟩
      · exact .inl old
    · exact .inl isIn
  induction after generalizing least most cursor passed with
  | nil => exact here member
  | cons char rest ih =>
    rw [reach] at member
    split at member
    · rename_i goes
      rcases ih rfl member with isIn | ⟨text, run, moved⟩
      · exact here isIn
      · exact .inr ⟨char :: text, run.cons goes, (Moves.next ahead captures).trans moved⟩
    · exact here member

theorem firstOf_eq_some {first : Option Progress} {second : Unit → Option Progress} {found : Progress}
    (matched : firstOf first second = some found) : first = some found ∨ second () = some found := by
  cases first with
  | none => exact .inr matched
  | some progress => exact .inl matched

theorem onward_of_creep {after : Text} {cursor : Cursor} {captures : Captures} {follow : Rest}
    {found : Progress} (ahead : cursor.after = after)
    (matched : creep set captures follow after least most cursor = some found) :
    Onward (RunOf set least most) kept ⟨cursor, captures⟩ follow found := by
  have here {least : Nat} {most : Option Nat} {cursor : Cursor}
      (matched : (if least = 0 then follow ⟨cursor, captures⟩ else none) = some found) :
      Onward (RunOf set least most) kept ⟨cursor, captures⟩ follow found := by
    split at matched
    · rename_i none
      exact ⟨[], _, .nil none, .refl _, matched⟩
    · cases matched
  induction after generalizing least most cursor with
  | nil =>
    rw [creep] at matched
    rcases firstOf_eq_some matched with matched | matched
    · exact here matched
    · cases matched
  | cons char rest ih =>
    rw [creep] at matched
    rcases firstOf_eq_some matched with matched | matched
    · exact here matched
    · split at matched
      · rename_i goes
        obtain ⟨text, reached, run, moved, onward⟩ := ih rfl matched
        exact ⟨char :: text, reached, run.cons goes, (Moves.next ahead captures).trans moved, onward⟩
      · cases matched

theorem faithful_loopOne (appetite : Appetite) (least : Nat) (most : Option Nat) (set : CharSet) :
    Faithful (Rounds (Node.one set).Spells least most 0) kept (loopOne appetite least most set) := by
  intro progress follow found matched
  have far {place : Cursor}
      (member : place ∈ reach set progress.cursor.after least most progress.cursor [])
      (onward : follow ⟨place, progress.captures⟩ = some found) :
      Onward (Rounds (Node.one set).Spells least most 0) kept progress follow found := by
    rcases mem_reach rfl member progress.captures with absurd | ⟨text, run, moved⟩
    · cases absurd
    · exact ⟨text, _, run.rounds, moved, onward⟩
  cases appetite with
  | lazy =>
    obtain ⟨text, reached, run, moved, onward⟩ := onward_of_creep rfl matched
    exact ⟨text, reached, run.rounds, moved, onward⟩
  | greedy =>
    obtain ⟨place, member, onward⟩ := List.exists_of_findSome?_eq_some matched
    exact far member onward
  | possessive =>
    unfold loopOne at matched
    dsimp only at matched
    cases places : reach set progress.cursor.after least most progress.cursor [] with
    | nil =>
      rw [places] at matched
      cases matched
    | cons place others =>
      rw [places] at matched
      exact far (places ▸ List.mem_cons_self) matched

/-! ### Loops over any body -/

variable {body others : Step} {count : Nat}

/-- One more round, and the others behind it. -/
theorem Faithful.round (faithful : Faithful spells kept body)
    (again : Faithful (Rounds spells least most (count + 1)) kept others) :
    Faithful (Rounds spells least most count) kept fun progress follow =>
      body progress fun reached => others reached follow := by
  intro progress follow found matched
  obtain ⟨one, middle, spelled, moved, onward⟩ := faithful progress _ found matched
  obtain ⟨more, reached, inMore, behind, last⟩ := again middle follow found onward
  exact ⟨one ++ more, reached, inMore.cons spelled, moved.trans behind, last⟩

/-- No more rounds. -/
theorem onward_here {progress found : Progress} {follow : Rest} (enough : ¬ count < least)
    (within : ∀ limit, most = some limit → count ≤ max least limit)
    (matched : follow progress = some found) :
    Onward (Rounds spells least most count) kept progress follow found :=
  ⟨[], progress, .nil (Nat.not_lt.mp enough) within, .refl progress, matched⟩

theorem within_of_few (few : count < least) (limit : Nat) (_ : most = some limit) :
    count + 1 ≤ max least limit := by
  omega

theorem within_of_belowMost (below : belowMost most count = true) (limit : Nat)
    (limited : most = some limit) : count + 1 ≤ max least limit := by
  subst limited
  have := of_decide_eq_true below
  omega

variable (within : ∀ limit, most = some limit → count ≤ max least limit)

include within

theorem faithful_loopGreedy (faithful : Faithful spells kept body) (fuel : Nat) (last : Option Nat) :
    Faithful (Rounds spells least most count) kept (loopGreedy body least most fuel count last) := by
  induction fuel generalizing count last with
  | zero => exact fun _ _ _ matched => nomatch matched
  | succ fuel ih =>
    intro progress follow found matched
    rw [loopGreedy] at matched
    by_cases few : count < least
    · rw [if_pos few] at matched
      exact faithful.round (ih (within_of_few few) last) progress follow found matched
    · rw [if_neg few] at matched
      split at matched
      · rename_i goes
        have below := (Bool.and_eq_true_iff.mp goes).1
        rcases firstOf_eq_some matched with matched | matched
        · exact faithful.round (ih (within_of_belowMost below) _) progress follow found matched
        · exact onward_here few within matched
      · exact onward_here few within matched

theorem faithful_loopLazy (faithful : Faithful spells kept body) (fuel : Nat) (last : Option Nat) :
    Faithful (Rounds spells least most count) kept (loopLazy body least most fuel count last) := by
  induction fuel generalizing count last with
  | zero => exact fun _ _ _ matched => nomatch matched
  | succ fuel ih =>
    intro progress follow found matched
    rw [loopLazy] at matched
    by_cases few : count < least
    · rw [if_pos few] at matched
      exact faithful.round (ih (within_of_few few) last) progress follow found matched
    · rw [if_neg few] at matched
      rcases firstOf_eq_some matched with matched | matched
      · exact onward_here few within matched
      · split at matched
        · rename_i goes
          have below := (Bool.and_eq_true_iff.mp goes).1
          exact faithful.round (ih (within_of_belowMost below) _) progress follow found matched
        · cases matched

theorem faithful_loopPossessive (faithful : Faithful spells kept body) (fuel : Nat)
    (last : Option Nat) :
    Faithful (Rounds spells least most count) kept fun progress follow =>
      (loopPossessive body least most fuel count last progress).bind follow := by
  induction fuel generalizing count last with
  | zero => exact fun _ _ _ matched => nomatch matched
  | succ fuel ih =>
    intro progress follow found matched
    -- A round that is final is a round with what follows behind it.
    have again {last : Option Nat} (within : ∀ limit, most = some limit → count + 1 ≤ max least limit)
        {reached : Progress} (made : body progress some = some reached)
        (matched : (loopPossessive body least most fuel (count + 1) last reached).bind follow =
          some found) :
        Onward (Rounds spells least most count) kept progress follow found := by
      obtain ⟨one, middle, spelled, moved, same⟩ := faithful progress some reached made
      obtain rfl := Option.some.inj same
      obtain ⟨more, reached, inMore, behind, last⟩ := ih within last middle follow found matched
      exact ⟨one ++ more, reached, inMore.cons spelled, moved.trans behind, last⟩
    dsimp only at matched
    rw [loopPossessive] at matched
    by_cases few : count < least
    · rw [if_pos few] at matched
      cases made : body progress some with
      | none =>
        rw [made] at matched
        cases matched
      | some reached =>
        rw [made] at matched
        exact again (within_of_few few) made matched
    · rw [if_neg few] at matched
      split at matched
      · rename_i goes
        have below := (Bool.and_eq_true_iff.mp goes).1
        cases made : body progress some with
        | none =>
          rw [made] at matched
          exact onward_here few within matched
        | some reached =>
          rw [made] at matched
          exact again (within_of_belowMost below) made matched
      · exact onward_here few within matched

omit within

theorem faithful_loopAny (faithful : Faithful spells kept body) (size : Nat) (appetite : Appetite)
    (least : Nat) (most : Option Nat) :
    Faithful (Rounds spells least most 0) kept (loopAny size appetite least most body) := by
  have within : ∀ limit, most = some limit → 0 ≤ max least limit := fun _ _ => Nat.zero_le _
  cases appetite with
  | greedy => exact faithful_loopGreedy within faithful _ _
  | lazy => exact faithful_loopLazy within faithful _ _
  | possessive => exact faithful_loopPossessive within faithful _ _

/-! ### Nodes -/

theorem Faithful.imp {step : Step} {weaker : Text → Prop} {fewer : Nat → Prop}
    (faithful : Faithful spells kept step) (allows : ∀ text, spells text → weaker text)
    (keeps : ∀ index, fewer index → kept index) : Faithful weaker fewer step := by
  intro progress follow found matched
  obtain ⟨text, reached, spelled, moved, onward⟩ := faithful progress follow found matched
  exact ⟨text, reached, allows text spelled,
    ⟨moved.after, moved.before, moved.position, fun index kept => moved.spans index (keeps index kept)⟩,
    onward⟩

/-- A place among the captures that belongs to none of the groups. -/
def Spares (groups : List Nat) (index : Nat) : Prop :=
  ∀ group ∈ groups, group - 1 ≠ index

instance (groups : List Nat) (index : Nat) : Decidable (Spares groups index) :=
  inferInstanceAs (Decidable (∀ group ∈ groups, group - 1 ≠ index))

theorem Faithful.spares_left {step : Step} {one : List Nat}
    (faithful : Faithful spells (Spares one) step)
    (two : List Nat) : Faithful spells (Spares (one ++ two)) step :=
  faithful.imp (fun _ => id) fun _ spares group member => spares group (List.mem_append_left two member)

theorem Faithful.spares_right {step : Step} {two : List Nat}
    (faithful : Faithful spells (Spares two) step)
    (one : List Nat) : Faithful spells (Spares (one ++ two)) step :=
  faithful.imp (fun _ => id) fun _ spares group member =>
    spares group (List.mem_append_right one member)

/-- A step that is faithful to the first of two nodes is faithful to their alternative. -/
theorem Faithful.either_left {step : Step} {one : List Nat}
    (faithful : Faithful spells (Spares one) step) (others : Text → Prop) (two : List Nat) :
    Faithful (fun text => spells text ∨ others text) (Spares (one ++ two)) step :=
  (faithful.spares_left two).imp (fun _ => .inl) fun _ => id

theorem Faithful.either_right {step : Step} {two : List Nat}
    (faithful : Faithful spells (Spares two) step) (others : Text → Prop) (one : List Nat) :
    Faithful (fun text => others text ∨ spells text) (Spares (one ++ two)) step :=
  (faithful.spares_right one).imp (fun _ => .inr) fun _ => id

/-- What looks around from a place stays there, with what it has captured. -/
theorem Faithful.stays {step : Step} (faithful : Faithful spells kept step) {start seen : Progress}
    {cursor : Cursor} (looked : step ⟨cursor, start.captures⟩ some = some seen) :
    Moves kept [] start ⟨start.cursor, seen.captures⟩ := by
  obtain ⟨text, reached, -, moved, same⟩ := faithful _ _ seen looked
  obtain rfl := Option.some.inj same
  exact ⟨rfl, rfl, rfl, moved.spans⟩

/-- A look around goes on from where it starts, whether it has to see something or nothing. -/
theorem faithful_look {look : Progress → Option Progress} (negated : Bool)
    (stays : ∀ start seen, look start = some seen → Moves kept [] start ⟨start.cursor, seen.captures⟩) :
    Faithful (· = []) kept fun progress follow =>
      match look progress with
      | some seen => if negated then none else follow ⟨progress.cursor, seen.captures⟩
      | none => if negated then follow progress else none := by
  intro progress follow found matched
  dsimp only at matched
  cases looked : look progress with
  | some seen =>
    rw [looked] at matched
    cases negated with
    | true => cases matched
    | false => exact ⟨[], _, rfl, stays progress seen looked, matched⟩
  | none =>
    rw [looked] at matched
    cases negated with
    | true => exact ⟨[], progress, rfl, .refl progress, matched⟩
    | false => cases matched

theorem moves_follow {foldCase wide : Bool} {wanted : Text} {cursor reached : Cursor}
    (followed : Expr.follow foldCase wide wanted cursor = some reached) (captures : Captures) :
    ∃ text, Moves kept text ⟨cursor, captures⟩ ⟨reached, captures⟩ := by
  induction wanted generalizing cursor with
  | nil =>
    obtain rfl := Option.some.inj followed
    exact ⟨[], .refl _⟩
  | cons char wanted ih =>
    rw [Expr.follow] at followed
    cases ahead : cursor.after with
    | nil =>
      rw [ahead] at followed
      cases followed
    | cons other rest =>
      rw [ahead] at followed
      dsimp only at followed
      split at followed
      · obtain ⟨text, moved⟩ := ih followed
        exact ⟨[other] ++ text, (Moves.next ahead captures).trans moved⟩
      · cases followed

theorem faithful_loop {subject : Subject} (appetite : Appetite) (least : Nat) (most : Option Nat)
    {body : Node} (faithful : Faithful body.Spells kept (body.step subject)) :
    Faithful (Rounds body.Spells least most 0) kept
      ((Node.loop appetite least most body).step subject) := by
  cases body with
  | one set => exact faithful_loopOne appetite least most set
  | _ => exact faithful_loopAny faithful subject.size appetite least most

theorem faithful_capture {step : Step} {groups : List Nat} (group : Nat)
    (faithful : Faithful spells (Spares groups) step) :
    Faithful spells (Spares (group :: groups)) fun progress follow =>
      step ⟨progress.cursor, progress.captures.modify (group - 1)
        fun span => { span with opened := some progress.cursor.position }⟩ fun reached =>
          follow ⟨reached.cursor, reached.captures.modify (group - 1)
            fun span => { span with closed := some reached.cursor.position }⟩ := by
  intro progress follow found matched
  obtain ⟨text, reached, spelled, moved, onward⟩ := faithful _ _ found matched
  let closed : Progress := ⟨reached.cursor, reached.captures.modify (group - 1)
    fun span => { span with closed := some reached.cursor.position }⟩
  refine ⟨text, closed, spelled, ⟨moved.after, moved.before, moved.position, ?_⟩, onward⟩
  intro index spares
  obtain ⟨other, others⟩ := List.forall_mem_cons.mp spares
  have kept := moved.spans index others
  rw [List.getElem?_modify_ne _ _ other] at kept
  exact (List.getElem?_modify_ne _ _ other).trans kept

/-- **A node consumes only what it spells** and leaves the groups it does not have alone, wherever it is
matched and whatever is matched after it. -/
theorem faithful_step (subject : Subject) (node : Node) :
    Faithful node.Spells (Spares node.groups) (node.step subject) := by
  induction node with
  | empty => exact fun progress follow found matched => ⟨[], progress, rfl, .refl progress, matched⟩
  | one set =>
    intro progress follow found matched
    unfold Node.step at matched
    split at matched
    · cases matched
    · rename_i char rest ahead
      split at matched
      · rename_i contained
        exact ⟨[char], _, ⟨char, contained, rfl⟩, .next ahead _, matched⟩
      · cases matched
  | anchor condition =>
    intro progress follow found matched
    unfold Node.step at matched
    split at matched
    · exact ⟨[], progress, rfl, .refl progress, matched⟩
    · cases matched
  | seq first second one two =>
    intro progress follow found matched
    obtain ⟨text, middle, spelled, moved, onward⟩ :=
      one.spares_left second.groups progress _ found matched
    obtain ⟨more, reached, inMore, behind, last⟩ :=
      two.spares_right first.groups middle follow found onward
    exact ⟨text ++ more, reached, ⟨text, more, spelled, inMore, rfl⟩, moved.trans behind, last⟩
  | alt first second one two =>
    intro progress follow found matched
    rcases firstOf_eq_some matched with matched | matched
    · exact one.either_left second.Spells second.groups progress follow found matched
    · exact two.either_right first.Spells first.groups progress follow found matched
  | capture group body ih => exact faithful_capture group ih
  | loop appetite least most body ih => exact faithful_loop appetite least most ih
  | ahead negated body ih => exact faithful_look negated fun _ _ looked => ih.stays looked
  | behind width negated body ih =>
    refine faithful_look negated fun start seen looked => ?_
    obtain ⟨cursor, -, looked⟩ := Option.bind_eq_some_iff.mp looked
    exact ih.stays looked
  | atomic body ih =>
    intro progress follow found matched
    obtain ⟨middle, made, onward⟩ := Option.bind_eq_some_iff.mp matched
    obtain ⟨text, reached, spelled, moved, same⟩ := ih progress some middle made
    obtain rfl := Option.some.inj same
    exact ⟨text, reached, spelled, moved, onward⟩
  | «recall» group foldCase wide =>
    intro progress follow found matched
    unfold Node.step at matched
    split at matched
    · cases matched
    · split at matched
      · cases matched
      · rename_i followed
        obtain ⟨text, moved⟩ := moves_follow followed progress.captures
        exact ⟨text, _, trivial, moved, matched⟩
  | choose group present absent one two =>
    intro progress follow found matched
    unfold Node.step at matched
    split at matched
    · exact one.either_left absent.Spells absent.groups progress follow found matched
    · exact two.either_right present.Spells present.groups progress follow found matched

end GrokEvents.Expr
