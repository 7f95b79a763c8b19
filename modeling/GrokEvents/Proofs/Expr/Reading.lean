/-
**How a node reads a text.**

Matching tries the ways of a node in order. A node is said to read a text when the first way that
what follows can go on from is the one that consumes just this text; what follows may have to ask
for a certain character. Readings compose along the tree of an expression.

* `Reads.seq`, `Reads.alt_first`, `Reads.capture`: the readings of compound nodes.
* `reads_loopOne`: a loop over one character takes all it can.
* `reads_rounds`: a loop over any body takes round after round, until its body is blocked.
* `reads_giving_back`: a loop gives back what it took too much.
* `Reads.alt_spelled`: an alternative that is tried first cannot lead past what it does not spell.
-/

import GrokEvents.Proofs.Expr.Spelling

namespace GrokEvents.Expr

/-! ### Places -/

/-- The place between two texts. -/
def Cursor.between (done rest : Text) : Cursor :=
  ⟨done.reverse, done.length, rest⟩

theorem Cursor.next_between (done : Text) (char : Char) (rest : Text) :
    (between done (char :: rest)).next char rest = between (done ++ [char]) rest := by
  simp [between, next]

/-- What follows can go on only where a certain character comes next, if one is given. -/
def Asks : Option Char → Rest → Prop
  | none, _ => True
  | some char, follow => ∀ progress, (follow progress).isSome = true →
    progress.cursor.after.head? = some char

/-- A node can go on only where a certain character comes next, if one is given. -/
def Opens (subject : Subject) (next : Option Char) (node : Node) : Prop :=
  ∀ follow, Asks next fun progress => node.step subject progress follow

/-- A node reads a text, before what asks for `next`: what follows goes on from the end of the text
if it can. -/
def Reads (subject : Subject) (next : Option Char) (node : Node) (done text rest : Text)
    (before after : Captures) : Prop :=
  ∀ follow, Asks next follow → (follow ⟨.between (done ++ text) rest, after⟩).isSome = true →
    node.step subject ⟨.between done (text ++ rest), before⟩ follow =
      follow ⟨.between (done ++ text) rest, after⟩

/-- A node cannot be matched at a place, whatever follows. -/
def Blocked (subject : Subject) (node : Node) (progress : Progress) : Prop :=
  ∀ follow, node.step subject progress follow = none

variable {subject : Subject} {next : Option Char} {done text rest : Text}
  {before middle after captures : Captures}

/-! ### Compound nodes -/

theorem firstOf_of_isSome {first : Option Progress} (found : first.isSome = true)
    (second : Unit → Option Progress) : firstOf first second = first := by
  cases first with
  | none => cases found
  | some progress => rfl

theorem opens_one (subject : Subject) (char : Char) :
    Opens subject (some char) (.one (.literal char)) := by
  intro follow progress goes
  change ((Node.one (.literal char)).step subject progress follow).isSome = true at goes
  unfold Node.step at goes
  split at goes
  · cases goes
  · rename_i other left ahead
    split at goes
    · rename_i contained
      rw [ahead, (CharSet.literal_contains char other).mp contained]
      rfl
    · cases goes

theorem Opens.seq {first : Node} (opens : Opens subject next first) (second : Node) :
    Opens subject next (.seq first second) :=
  fun _ => opens _

namespace Reads

/-- A node that reads before a certain character reads before a node that asks for it. -/
theorem seq_of_opens {ahead : Option Char} {first second : Node} {one two : Text}
    (reads : Reads subject ahead first done one (two ++ rest) before middle)
    (opens : Opens subject ahead second)
    (onward : Reads subject next second (done ++ one) two rest middle after) :
    Reads subject next (.seq first second) done (one ++ two) rest before after := by
  intro follow asks goes
  rw [← List.append_assoc] at goes ⊢
  have last := onward follow asks goes
  rw [List.append_assoc one two rest]
  refine (reads _ (opens follow) ?_).trans last
  rw [last]
  exact goes

theorem seq {first second : Node} {one two : Text}
    (reads : Reads subject none first done one (two ++ rest) before middle)
    (onward : Reads subject next second (done ++ one) two rest middle after) :
    Reads subject next (.seq first second) done (one ++ two) rest before after :=
  seq_of_opens reads (fun _ => trivial) onward

theorem alt_first {first : Node} (reads : Reads subject next first done text rest before after)
    (second : Node) : Reads subject next (.alt first second) done text rest before after := by
  intro follow asks goes
  show firstOf (first.step subject _ follow) _ = _
  rw [reads follow asks goes]
  exact firstOf_of_isSome goes _

theorem alt_second {first second : Node}
    (blocked : Blocked subject first ⟨.between done (text ++ rest), before⟩)
    (reads : Reads subject next second done text rest before after) :
    Reads subject next (.alt first second) done text rest before after := by
  intro follow asks goes
  show firstOf (first.step subject _ follow) _ = _
  rw [blocked follow]
  exact reads follow asks goes

end Reads

/-- The captures with a group opened and closed at two places. -/
def Captures.mark (captures : Captures) (group opened closed : Nat) : Captures :=
  captures.modify (group - 1) fun _ => ⟨some opened, some closed⟩

theorem Captures.modify_eq_mark (captures : Captures) (group opened closed : Nat) :
    (captures.modify (group - 1) fun span => { span with opened := some opened }).modify (group - 1)
      (fun span => { span with closed := some closed }) = captures.mark group opened closed := by
  rw [List.modify_modify_eq]
  rfl

/-- A group keeps the text that its body reads. -/
theorem Reads.capture {group : Nat} {body : Node}
    (reads : ∀ captures, Reads subject next body done text rest captures captures) :
    Reads subject next (.capture group body) done text rest captures
      (captures.mark group done.length (done ++ text).length) := by
  intro follow asks goes
  rw [← Captures.modify_eq_mark] at goes ⊢
  refine reads _ _ ?_ goes
  cases next with
  | none => trivial
  | some char =>
    intro progress onward
    exact asks ⟨progress.cursor, progress.captures.modify (group - 1) fun span =>
      { span with closed := some progress.cursor.position }⟩ onward

/-! ### One character -/

theorem reads_one {set : CharSet} {char : Char} (contained : set.contains char = true) :
    Reads subject next (.one set) done [char] rest captures captures := by
  intro follow _ _
  show (if set.contains char then
    follow ⟨(Cursor.between done (char :: rest)).next char rest, captures⟩ else none) = _
  rw [if_pos contained, Cursor.next_between]

theorem reads_literal {char : Char} :
    Reads subject next (.one (.literal char)) done [char] rest captures captures :=
  reads_one ((CharSet.literal_contains char char).mpr rfl)

/-- What is asked of the character that comes next is asked of the first one there is. -/
theorem forall_head_cons {holds : Char → Prop} {char : Char} (here : holds char) :
    ∀ other, (char :: rest).head? = some other → holds other := by
  intro other ahead
  obtain rfl := Option.some.inj ahead
  exact here

/-- A node is blocked where the character that comes next is not in its set. -/
theorem blocked_one {set : CharSet} (outside : ∀ char, rest.head? = some char →
    set.contains char = false) :
    Blocked subject (.one set) ⟨.between done rest, captures⟩ := by
  intro follow
  cases rest with
  | nil => rfl
  | cons char rest =>
    show (if set.contains char then _ else none) = none
    rw [outside char rfl]
    rfl

theorem Blocked.seq {first : Node} {progress : Progress} (blocked : Blocked subject first progress)
    (second : Node) : Blocked subject (.seq first second) progress :=
  fun _ => blocked _

/-- Where a node is blocked behind a character, so is the character with the node behind it. -/
theorem Blocked.behind_one {set : CharSet} {char : Char} {second : Node}
    (blocked : Blocked subject second ⟨.between (done ++ [char]) rest, captures⟩) :
    Blocked subject (.seq (.one set) second) ⟨.between done (char :: rest), captures⟩ := by
  intro follow
  show (if set.contains char then
    second.step subject ⟨(Cursor.between done (char :: rest)).next char rest, captures⟩ follow
      else none) = none
  rw [Cursor.next_between, blocked]
  exact ite_self none

theorem Blocked.alt {first second : Node} {progress : Progress}
    (one : Blocked subject first progress) (two : Blocked subject second progress) :
    Blocked subject (.alt first second) progress := by
  intro follow
  show firstOf (first.step subject progress follow) _ = none
  rw [one follow]
  exact two follow

theorem Blocked.capture {body : Node} {cursor : Cursor}
    (blocked : ∀ captures, Blocked subject body ⟨cursor, captures⟩) (group : Nat)
    (captures : Captures) : Blocked subject (.capture group body) ⟨cursor, captures⟩ :=
  fun _ => blocked _ _

/-- An anchor reads nothing where its condition holds. -/
theorem reads_anchor {condition : Anchor} (holds : condition.holds (.between done rest) = true) :
    Reads subject next (.anchor condition) done [] rest captures captures := by
  intro follow _ _
  show (if condition.holds (.between done rest) then follow ⟨.between done rest, captures⟩ else none) =
    _
  rw [if_pos holds, List.append_nil]

/-! ### Loops over one character -/

/-- A loop over a set passes over what is in it. -/
theorem reach_append {set : CharSet} {text : Text}
    (all : ∀ char ∈ text, set.contains char = true) (done rest : Text) (least : Nat)
    {most : Option Nat} (room : ∀ limit, most = some limit → text.length ≤ limit)
    (passed : List Cursor) :
    ∃ others, reach set (text ++ rest) least most (.between done (text ++ rest)) passed =
      reach set rest (least - text.length) (most.map (· - text.length))
        (.between (done ++ text) rest) others := by
  induction text generalizing done least most passed with
  | nil =>
    refine ⟨passed, ?_⟩
    rw [List.append_nil, List.nil_append, List.length_nil, Nat.sub_zero]
    cases most <;> rfl
  | cons char text ih =>
    have goes : goesOn most = true := by
      cases most with
      | none => rfl
      | some limit =>
        have := room limit rfl
        rw [List.length_cons] at this
        simp only [goesOn, bne_iff_ne, ne_eq, Option.some.injEq]
        omega
    have smaller : ∀ limit, afterRound most = some limit → text.length ≤ limit := by
      intro limit same
      obtain ⟨old, rfl, rfl⟩ := Option.map_eq_some_iff.mp same
      have := room old rfl
      rw [List.length_cons] at this
      omega
    obtain ⟨others, same⟩ := ih (fun other member => all other (List.mem_cons_of_mem _ member))
      (done ++ [char]) (least - 1) smaller
      (if least = 0 then .between done (char :: (text ++ rest)) :: passed else passed)
    refine ⟨others, ?_⟩
    rw [List.cons_append, reach, goes, all char List.mem_cons_self]
    rw [Bool.true_and, if_pos rfl, Cursor.next_between, same]
    have bounds : (afterRound most).map (· - text.length) =
        most.map (· - (char :: text).length) := by
      cases most with
      | none => rfl
      | some limit =>
        simp only [afterRound, Option.map_some, List.length_cons, Option.some.injEq]
        omega
    rw [bounds, List.append_assoc, List.singleton_append, List.length_cons, Nat.sub_sub,
      Nat.add_comm 1]

/-- A loop over a set stops before what is not in it, or when its rounds are used up. -/
theorem reach_stop {set : CharSet} {rest : Text} {most : Option Nat}
    (stops : most = some 0 ∨ ∀ char, rest.head? = some char → set.contains char = false)
    (cursor : Cursor) (passed : List Cursor) :
    reach set rest 0 most cursor passed = cursor :: passed := by
  cases rest with
  | nil => rfl
  | cons char rest =>
    have stopped : (goesOn most && set.contains char) = false := by
      rcases stops with used | outside
      · rw [used]
        rfl
      · rw [outside char rfl, Bool.and_false]
    rw [reach, stopped]
    rfl

/-- A greedy loop over a set takes all characters of the set, up to its greatest number. -/
theorem reads_loopOne {set : CharSet} {least : Nat} {most : Option Nat}
    (all : ∀ char ∈ text, set.contains char = true) (enough : least ≤ text.length)
    (stops : most = some text.length ∨ (∀ limit, most = some limit → text.length ≤ limit) ∧
      ∀ char, rest.head? = some char → set.contains char = false) :
    Reads subject next (.loop .greedy least most (.one set)) done text rest captures captures := by
  intro follow _ goes
  have room : ∀ limit, most = some limit → text.length ≤ limit := by
    rcases stops with exact | ⟨room, -⟩
    · intro limit same
      rw [exact] at same
      exact Nat.le_of_eq (Option.some.inj same)
    · exact room
  have stopped : most.map (· - text.length) = some 0 ∨
      ∀ char, rest.head? = some char → set.contains char = false := by
    rcases stops with exact | ⟨-, outside⟩
    · rw [exact, Option.map_some, Nat.sub_self]
      exact .inl rfl
    · exact .inr outside
  obtain ⟨others, passes⟩ := reach_append all done rest least room []
  rw [Nat.sub_eq_zero_of_le enough, reach_stop stopped] at passes
  show (reach set (text ++ rest) least most (.between done (text ++ rest)) []).findSome?
    (fun cursor => follow ⟨cursor, captures⟩) = _
  rw [passes]
  exact List.findSome?_cons_of_isSome goes

/-- A loop over a set that has to take something is blocked where what comes next is not in the set. -/
theorem blocked_loopOne {set : CharSet} {least : Nat} {most : Option Nat}
    (outside : ∀ char, rest.head? = some char → set.contains char = false) :
    Blocked subject (.loop .greedy (least + 1) most (.one set)) ⟨.between done rest, captures⟩ := by
  intro follow
  have nowhere : reach set rest (least + 1) most (.between done rest) [] = [] := by
    cases rest with
    | nil => rfl
    | cons char rest =>
      rw [reach, outside char rfl, Bool.and_false]
      rfl
  show (reach set rest (least + 1) most (.between done rest) []).findSome? _ = none
  rw [nowhere]
  rfl

/-- Where neither what an optional character leaves nor what it would take leads on, all is blocked. -/
theorem Blocked.optional {set : CharSet} {char : Char} {second : Node}
    (taken : Blocked subject second ⟨.between (done ++ [char]) rest, captures⟩)
    (left : Blocked subject second ⟨.between done (char :: rest), captures⟩) :
    Blocked subject (.seq (.loop .greedy 0 (some 1) (.one set)) second)
      ⟨.between done (char :: rest), captures⟩ := by
  intro follow
  show (reach set (char :: rest) 0 (some 1) (.between done (char :: rest)) []).findSome?
    (fun cursor => second.step subject ⟨cursor, captures⟩ follow) = none
  rw [reach, Cursor.next_between]
  by_cases contained : (goesOn (some 1) && set.contains char) = true
  · have usedUp : reach set rest (0 - 1) (afterRound (some 1)) (.between (done ++ [char]) rest)
        (if 0 = 0 then [.between done (char :: rest)] else []) =
          [.between (done ++ [char]) rest, .between done (char :: rest)] :=
      reach_stop (.inl rfl) _ _
    rw [if_pos contained, usedUp, List.findSome?_cons, taken]
    dsimp only
    rw [List.findSome?_cons, left]
    rfl
  · rw [if_neg contained, if_pos rfl, List.findSome?_cons, left]
    rfl

/-! ### Loops over any body -/

/-- A body that is not one character alone is looped over round by round. -/
theorem step_loop {body : Node} (compound : ∀ set, body ≠ .one set) (least : Nat)
    (most : Option Nat) (progress : Progress) (follow : Rest) :
    (Node.loop .greedy least most body).step subject progress follow =
      loopGreedy (body.step subject) least most (least + subject.size + 2) 0 none progress
        follow := by
  cases body with
  | one set => exact absurd rfl (compound set)
  | _ => rfl

/-- Where another round may be made, it is tried before what follows. -/
theorem loopGreedy_round {body : Step} {most : Option Nat} {fuel count : Nat} {last : Option Nat}
    {progress : Progress} (below : belowMost most count = true)
    (fresh : last ≠ some progress.cursor.position) (follow : Rest) :
    loopGreedy body 0 most (fuel + 1) count last progress follow =
      firstOf (body progress fun reached =>
        loopGreedy body 0 most fuel (count + 1) (some progress.cursor.position) reached follow)
        fun _ => follow progress := by
  have moved : (last != some progress.cursor.position) = true := bne_iff_ne.mpr fresh
  rw [loopGreedy, if_neg (Nat.not_lt_zero count), below, moved]
  rfl

/-- A loop of at most one round reads what its body reads. -/
theorem reads_optional {body : Node} (compound : ∀ set, body ≠ .one set)
    (reads : Reads subject next body done text rest before after) :
    Reads subject next (.loop .greedy 0 (some 1) body) done text rest before after := by
  intro follow asks goes
  -- After the one round, what follows has its turn.
  have last (place : Option Nat) : (fun reached =>
      loopGreedy (body.step subject) 0 (some 1) (subject.size + 1) 1 place reached follow) =
        follow := by
    funext reached
    rw [loopGreedy, if_neg (Nat.not_lt_zero 1)]
    rfl
  rw [step_loop compound, Nat.zero_add, loopGreedy_round rfl (Option.some_ne_none _).symm, last,
    reads follow asks goes]
  exact firstOf_of_isSome goes _

/-- A loop that may have no rounds has none where its body is blocked. -/
theorem step_loop_of_blocked {body : Node} {most : Option Nat} (compound : ∀ set, body ≠ .one set)
    {progress : Progress} (blocked : Blocked subject body progress) (follow : Rest) :
    (Node.loop .greedy 0 most body).step subject progress follow = follow progress := by
  rw [step_loop compound, Nat.zero_add, loopGreedy, if_neg (Nat.not_lt_zero _), blocked]
  split <;> rfl

theorem reads_nothing {body : Node} {most : Option Nat} (compound : ∀ set, body ≠ .one set)
    (blocked : Blocked subject body ⟨.between done rest, captures⟩) :
    Reads subject next (.loop .greedy 0 most body) done [] rest captures captures := by
  intro follow _ _
  rw [List.append_nil]
  exact step_loop_of_blocked compound blocked follow

/-- Round after round, a loop reads texts one behind the other, until its body is blocked. Each
round has to move on, and is read before whatever `ahead` holds of. -/
theorem loopGreedy_rounds {body : Node} {ahead : Text → Prop} {rounds : List Text}
    (reads : ∀ done round rest, round ∈ rounds → ahead rest →
      Reads subject none body done round rest captures captures)
    (moves : ∀ round ∈ rounds, round ≠ [])
    (starts : ∀ round ∈ rounds, ∀ rest, ahead (round ++ rest)) (ends : ahead rest)
    (blocked : ∀ done, Blocked subject body ⟨.between done rest, captures⟩) {fuel : Nat}
    (enough : rounds.length < fuel) (count : Nat) {last : Option Nat} (done : Text)
    (fresh : last ≠ some done.length) {follow : Rest}
    (goes : (follow ⟨.between (done ++ rounds.flatten) rest, captures⟩).isSome = true) :
    loopGreedy (body.step subject) 0 none fuel count last
        ⟨.between done (rounds.flatten ++ rest), captures⟩ follow =
      follow ⟨.between (done ++ rounds.flatten) rest, captures⟩ := by
  induction rounds generalizing fuel count last done with
  | nil =>
    obtain ⟨fuel, rfl⟩ := Nat.exists_eq_succ_of_ne_zero (Nat.ne_zero_of_lt enough)
    rw [List.flatten_nil, List.append_nil, List.nil_append, loopGreedy_round rfl fresh, blocked]
    rfl
  | cons round rounds ih =>
    obtain ⟨fuel, rfl⟩ := Nat.exists_eq_succ_of_ne_zero (Nat.ne_zero_of_lt enough)
    have onward : ahead (rounds.flatten ++ rest) := by
      cases rounds with
      | nil => exact ends
      | cons second rounds =>
        rw [List.flatten_cons, List.append_assoc]
        exact starts second (List.mem_cons_of_mem _ List.mem_cons_self) _
    have later : (some done.length : Option Nat) ≠ some (done ++ round).length := by
      have moved := List.length_pos_iff.mpr (moves round List.mem_cons_self)
      rw [List.length_append]
      intro same
      have := Option.some.inj same
      omega
    rw [List.flatten_cons, ← List.append_assoc] at goes
    have tail := ih (fun done other rest member =>
      reads done other rest (List.mem_cons_of_mem _ member))
      (fun other member => moves other (List.mem_cons_of_mem _ member))
      (fun other member => starts other (List.mem_cons_of_mem _ member))
      (Nat.lt_of_succ_lt_succ enough) (count + 1) (done ++ round) later goes
    have here := reads done round (rounds.flatten ++ rest) List.mem_cons_self onward
      (fun reached => loopGreedy (body.step subject) 0 none fuel (count + 1) (some done.length)
        reached follow) trivial
    rw [List.flatten_cons, ← List.append_assoc done, List.append_assoc round,
      loopGreedy_round rfl fresh]
    rw [tail] at here
    show firstOf (body.step subject _ fun reached =>
      loopGreedy (body.step subject) 0 none fuel (count + 1) (some done.length) reached follow) _ = _
    rw [here goes]
    exact firstOf_of_isSome goes _

theorem length_le_flatten {rounds : List Text} (moves : ∀ round ∈ rounds, round ≠ []) :
    rounds.length ≤ rounds.flatten.length := by
  induction rounds with
  | nil => exact Nat.le_refl 0
  | cons round rounds ih =>
    have first := List.length_pos_iff.mpr (moves round List.mem_cons_self)
    have others := ih fun other member => moves other (List.mem_cons_of_mem _ member)
    rw [List.length_cons, List.flatten_cons, List.length_append]
    omega

/-- A loop reads texts that fit into the subject one behind the other. -/
theorem reads_rounds {body : Node} {rounds : List Text} (ahead : Text → Prop)
    (compound : ∀ set, body ≠ .one set)
    (reads : ∀ done round rest, round ∈ rounds → ahead rest →
      Reads subject none body done round rest captures captures)
    (moves : ∀ round ∈ rounds, round ≠ [])
    (starts : ∀ round ∈ rounds, ∀ rest, ahead (round ++ rest)) (ends : ahead rest)
    (blocked : ∀ done, Blocked subject body ⟨.between done rest, captures⟩)
    (room : rounds.flatten.length ≤ subject.size) :
    Reads subject next (.loop .greedy 0 none body) done rounds.flatten rest captures captures := by
  intro follow _ goes
  have few := length_le_flatten moves
  rw [step_loop compound, Nat.zero_add]
  exact loopGreedy_rounds reads moves starts ends blocked (by omega) 0 done
    (Option.some_ne_none _).symm goes

/-! ### Giving back -/

/-- A loop over a set that has taken one character too many gives it back, where what comes after the
loop cannot go on from behind that character. -/
theorem reads_giving_back {set : CharSet} {group least : Nat} {char : Char} {second : Node}
    (all : ∀ other ∈ text, set.contains other = true) (enough : least ≤ text.length)
    (taken : set.contains char = true)
    (outside : ∀ other, rest.head? = some other → set.contains other = false)
    (stuck : ∀ captures follow, Asks (some char) follow →
      second.step subject ⟨.between (done ++ text ++ [char]) rest, captures⟩ follow = none)
    (idle : ∀ captures, Reads subject (some char) second (done ++ text) [] (char :: rest) captures
      captures) :
    Reads subject (some char) (.seq (.capture group (.loop .greedy least none (.one set))) second)
      done text (char :: rest) captures
      (captures.mark group done.length (done ++ text).length) := by
  intro follow asks goes
  have unbounded : ∀ limit, (none : Option Nat) = some limit → text.length ≤ limit := by
    intro limit same
    cases same
  obtain ⟨others, passes⟩ := reach_append all done (char :: rest) least unbounded []
  have back : reach set (text ++ char :: rest) least none (.between done (text ++ char :: rest)) [] =
      .between (done ++ text ++ [char]) rest :: .between (done ++ text) (char :: rest) :: others := by
    rw [passes, Nat.sub_eq_zero_of_le enough, Option.map_none, reach, taken, if_pos rfl,
      Cursor.next_between]
    exact reach_stop (.inr outside) _ _
  let opened := captures.modify (group - 1) fun span => { span with opened := some done.length }
  let onward : Rest := fun reached => second.step subject ⟨reached.cursor,
    reached.captures.modify (group - 1) fun span =>
      { span with closed := some reached.cursor.position }⟩ follow
  have tooFar : onward ⟨.between (done ++ text ++ [char]) rest, opened⟩ = none :=
    stuck _ follow asks
  have here : onward ⟨.between (done ++ text) (char :: rest), opened⟩ =
      follow ⟨.between (done ++ text) (char :: rest),
        captures.mark group done.length (done ++ text).length⟩ := by
    have last := idle (captures.mark group done.length (done ++ text).length) follow asks
    rw [List.append_nil] at last
    rw [← last goes, ← Captures.modify_eq_mark]
    rfl
  show (reach set (text ++ char :: rest) least none _ []).findSome?
    (fun cursor => onward ⟨cursor, opened⟩) = _
  rw [back, List.findSome?_cons, tooFar, ← here]
  rw [← here] at goes
  exact List.findSome?_cons_of_isSome goes

/-! ### Spelled texts -/

/-- A move from a place between two texts goes over a part of the second. -/
theorem Moves.between {kept : Nat → Prop} {after : Text} {reached : Progress}
    (moved : Moves kept text ⟨.between done after, captures⟩ reached) :
    ∃ rest, after = text ++ rest ∧ reached.cursor = .between (done ++ text) rest := by
  obtain ⟨⟨before, position, rest⟩, captures⟩ := reached
  refine ⟨rest, moved.after, ?_⟩
  obtain rfl := moved.before
  obtain rfl := moved.position
  simp [Cursor.between]

theorem Moves.captures_eq {start reached : Progress} (moved : Moves (Spares []) text start reached) :
    reached.captures = start.captures :=
  List.ext_getElem? fun index => moved.spans index nofun

/-- Before a character that it cannot spell, a node without groups that is tried first leads nowhere
or to where the node after it leads. -/
theorem Reads.alt_spelled {test : Char → Bool} {char : Char} {first second : Node}
    (groupless : first.groups = [])
    (spelled : ∀ text, first.Spells text → ∀ other ∈ text, test other = true)
    (fails : test char = false) (passes : ∀ other ∈ text, test other = true)
    (reads : Reads subject (some char) second done text (char :: rest) captures captures) :
    Reads subject (some char) (.alt first second) done text (char :: rest) captures captures := by
  intro follow asks goes
  show firstOf (first.step subject _ follow) _ = _
  cases matched : first.step subject ⟨.between done (text ++ char :: rest), captures⟩ follow with
  | none => exact reads follow asks goes
  | some found =>
    obtain ⟨other, ⟨cursor, kept⟩, inFirst, moved, onward⟩ := faithful_step subject first _ _ _ matched
    rw [groupless] at moved
    obtain ⟨after, same, rfl⟩ := moved.between
    obtain rfl := moved.captures_eq
    have ahead : after.head? = some char := asks _ (by rw [onward]; rfl)
    obtain ⟨left, rfl⟩ := List.head?_eq_some_iff.mp ahead
    have runs := congrArg (Text.run test) same
    rw [Text.run_of_stop passes fails, Text.run_of_stop (spelled other inFirst) fails] at runs
    obtain ⟨rfl, rest⟩ := Prod.mk.inj runs
    cases rest
    exact onward.symm

end GrokEvents.Expr
