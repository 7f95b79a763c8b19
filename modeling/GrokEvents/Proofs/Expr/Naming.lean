/-
**The names of groups.**

Reading changes its ledger in a few ways only: it moves on to an ending of what is left, opens a
group after its header, closes one, notes a condition or a look-behind. What none of these steps
breaks holds of every ledger that comes of reading. A named group is thus opened where its name is
introduced in the text, and the name has been judged before.

* `Ledger.Kept`: what no step of reading breaks.
* `keeps_read`: the three mutual readers keep it.
* `named_of_read`: the names of an expression are identifiers, and its text introduces them.
-/

import GrokEvents.Proofs.Expr.Trace

namespace GrokEvents.Expr

open Text

/-! ### Values of readers -/

/-- The value that a reader gives, if it gives one, has a property. -/
def Yields {Value : Type} (holds : Value → Prop) : Except Flaw Value → Prop
  | .ok value => holds value
  | .error _ => True

namespace Yields

variable {First Second : Type} {holds : First → Prop} {afterwards : Second → Prop}

theorem bind {first : Except Flaw First} {next : First → Except Flaw Second}
    (one : Yields holds first) (two : ∀ value, holds value → Yields afterwards (next value)) :
    Yields afterwards (first >>= next) := by
  match first, one with
  | .ok value, held => exact two value held
  | .error _, _ => trivial

/-- A reader whose value does not matter, on the way to another one. -/
theorem after {first : Except Flaw First} {next : First → Except Flaw Second}
    (onward : ∀ value, Yields afterwards (next value)) : Yields afterwards (first >>= next) := by
  match first with
  | .ok value => exact onward value
  | .error _ => trivial

theorem given (outcome : Except Flaw First) : Yields (fun value => outcome = .ok value) outcome := by
  match outcome with
  | .ok value => rfl
  | .error _ => trivial

end Yields

/-- A reader that leaves an ending, if it gives a value. -/
theorem Follows.yields {Value : Type} {left : Value → List Lexeme} {rest : List Lexeme}
    {outcome : Except Flaw Value} (follows : Follows left rest outcome) :
    Yields (fun value => left value <:+ rest) outcome := by
  match outcome, follows with
  | .ok _, ending => exact ending
  | .error _, _ => trivial

/-! ### Steps of a ledger -/

/-- What no step of reading breaks. -/
structure Ledger.Kept (holds : Ledger → Prop) : Prop where
  move : ∀ {ledger rest}, holds ledger → rest <:+ ledger.rest → holds { ledger with rest }
  /-- A group is opened behind its header, which stands behind its parenthesis. -/
  openGroup : ∀ {ledger opened modes inside left name group}, holds ledger →
    ledger.rest = .plain '(' :: inside → readHeader modes inside = .ok (.capture name, left) →
      Ledger.openGroup { ledger with rest := left } name = .ok (group, opened) → holds opened
  closeGroup : ∀ {ledger} group body, holds ledger → holds (ledger.closeGroup group body)
  condition : ∀ {ledger} group, holds ledger →
    holds { ledger with conditions := group :: ledger.conditions }
  vary : ∀ {ledger} varies, holds ledger → holds { ledger with varies }

namespace Ledger

/-- Opening a group adds its name to those that are known, if it has one. -/
theorem names_openGroup {ledger opened : Ledger} {name : Option Text} {group : Nat}
    (isOpened : ledger.openGroup name = .ok (group, opened)) :
    opened.names = ledger.names ++ (name.map (·, group)).toList := by
  unfold openGroup at isOpened
  dsimp only at isOpened
  split at isOpened
  · cases isOpened
    exact (List.append_nil _).symm
  · split at isOpened
    · cases isOpened
    · cases isOpened
      rfl

theorem Kept.close {holds : Ledger → Prop} (kept : Kept holds) {ledger : Ledger} (held : holds ledger) :
    Yields holds ledger.close := by
  unfold Ledger.close
  split
  · rename_i rest closed
    exact kept.move held (closed ▸ List.suffix_cons _ rest)
  · trivial

end Ledger

/-! ### Rows, alternatives and groups -/

/-- The three mutual readers, with a given fuel, keep what no step breaks. A group is read from
behind its parenthesis. -/
structure KeepsAt (holds : Ledger → Prop) (fuel : Nat) : Prop where
  alternatives : ∀ scope ledger, holds ledger →
    Yields (fun read => holds read.2) (readAlternatives fuel scope ledger)
  row : ∀ scope items ledger, holds ledger →
    Yields (fun read => holds read.2) (readRow fuel scope items ledger)
  group : ∀ scope ledger inside, holds ledger → ledger.rest = .plain '(' :: inside →
    Yields (fun read => holds read.2) (readGroup fuel scope { ledger with rest := inside })

namespace KeepsAt

variable {holds : Ledger → Prop} {fuel : Nat}

theorem alternatives_succ (kept : Ledger.Kept holds) (less : KeepsAt holds fuel) (scope : Scope)
    (ledger : Ledger) (held : holds ledger) :
    Yields (fun read => holds read.2) (readAlternatives (fuel + 1) scope ledger) := by
  rw [readAlternatives]
  refine (less.row scope [] ledger held).bind fun read held => ?_
  dsimp only
  split
  · rename_i rest bar
    refine (less.alternatives scope _ (kept.move held (bar ▸ List.suffix_cons _ rest))).bind
      fun _ held => held
  · exact held

theorem row_succ (kept : Ledger.Kept holds) (less : KeepsAt holds fuel) (scope : Scope)
    (items : List Item) (ledger : Ledger) (held : holds ledger) :
    Yields (fun read => holds read.2) (readRow (fuel + 1) scope items ledger) := by
  -- The row goes on with the ending that a reader which leaves the ledger alone has come to.
  have onward (items : List Item) {left : List Lexeme} (ending : left <:+ ledger.rest) :
      Yields (fun read => holds read.2) (readRow fuel scope items { ledger with rest := left }) :=
    less.row scope items _ (kept.move held ending)
  rw [readRow]
  dsimp only
  split
  · exact held
  · trivial
  · rename_i char rest escape
    have tail : rest <:+ ledger.rest := escape ▸ List.suffix_cons _ _
    exact (follows_readEscape scope ledger char rest).yields.bind fun _ ending =>
      onward _ (ending.trans tail)
  · rename_i name char rest named
    exact onward _ (named ▸ List.suffix_cons _ _)
  · rename_i char rest plain
    have tail : rest <:+ ledger.rest := plain ▸ List.suffix_cons _ _
    split
    · exact held
    · split
      · exact onward _ tail
      · split
        · exact onward _ ((skipLine_suffix rest).trans tail)
        · split
          · rename_i opens
            subst opens
            refine (less.group scope ledger rest held plain).bind fun read held => ?_
            exact less.row scope _ read.2 held
          · split
            · exact (follows_readSet rest).yields.bind fun _ ending => onward _ (ending.trans tail)
            · split
              · exact (follows_loopItem _ _ rest items).yields.bind fun _ ending =>
                  onward _ (ending.trans tail)
              · split
                · split
                  · exact onward _ tail
                  · rename_i least most after bounds
                    have tail := (readBounds?_suffix bounds).trans tail
                    refine Yields.after fun counts => ?_
                    exact (follows_loopItem counts.1 counts.2 after items).yields.bind fun _ ending =>
                      onward _ (ending.trans tail)
                · exact onward _ tail

/-- A body up to its closing parenthesis, and what is made of it. -/
theorem enclosed (kept : Ledger.Kept holds) (less : KeepsAt holds fuel) (scope : Scope)
    {ledger : Ledger} (held : holds ledger) (item : Node → Ledger → Option Item × Ledger)
    (keeps : ∀ body ledger, holds ledger → holds (item body ledger).2) :
    Yields (fun read => holds read.2) (do
      let (body, ledger) ← readAlternatives fuel scope ledger
      return item body (← ledger.close)) := by
  refine (less.alternatives scope ledger held).bind fun read held => ?_
  exact (kept.close held).bind fun closed held => keeps read.1 closed held

theorem group_succ (kept : Ledger.Kept holds) (less : KeepsAt holds fuel) (scope : Scope)
    (ledger : Ledger) (inside : List Lexeme) (held : holds ledger)
    (opens : ledger.rest = .plain '(' :: inside) :
    Yields (fun read => holds read.2) (readGroup (fuel + 1) scope { ledger with rest := inside }) := by
  rw [readGroup]
  refine (Yields.given (readHeader scope.modes inside)).bind fun read isRead => ?_
  obtain ⟨header, rest⟩ := read
  have behind := follows_readHeader scope.modes inside
  rw [isRead] at behind
  have ending : rest <:+ ledger.rest := opens ▸ behind.trans (List.suffix_cons _ _)
  have moved : holds { ledger with rest } := kept.move held ending
  dsimp only
  split
  · exact moved
  · split
    · trivial
    · exact Yields.after fun _ => moved
  · rename_i name
    refine (Yields.given (Ledger.openGroup { ledger with rest } name)).bind fun read isOpened => ?_
    obtain ⟨group, opened⟩ := read
    exact less.enclosed kept scope (kept.openGroup held opens isRead isOpened)
      (fun body ledger => (some ⟨.capture group body, .repeatable⟩, ledger.closeGroup group body))
      fun body _ => kept.closeGroup group body
  · exact less.enclosed kept _ moved (fun body ledger => (some ⟨body, .repeatable⟩, ledger))
      fun _ _ => id
  · exact less.enclosed kept scope moved
      (fun body ledger => (some ⟨.atomic body, .repeatable⟩, ledger)) fun _ _ => id
  · rename_i negated
    exact less.enclosed kept scope moved
      (fun body ledger => (some ⟨.ahead negated body, .repeatable⟩, ledger)) fun _ _ => id
  · rename_i negated
    exact less.enclosed kept _ moved
      (fun body ledger =>
        let width := body.width ledger.groupWidth
        (some ⟨.behind width.least negated body, .repeatable⟩,
          { ledger with varies := ledger.varies || width.varies }))
      fun _ _ => kept.vary _
  · rename_i name
    refine Yields.after fun condition => ?_
    obtain ⟨group, byNumber⟩ := condition
    refine Yields.after fun _ => ?_
    have counted : holds (if byNumber then
        { ledger with rest, conditions := group :: ledger.conditions }
        else { ledger with rest }) := by
      cases byNumber with
      | true => exact kept.condition group moved
      | false => exact moved
    refine (less.row scope [] _ counted).bind fun read held => ?_
    dsimp only
    split
    · rename_i rest bar
      have moved := kept.move held (bar ▸ List.suffix_cons _ rest)
      refine (less.row scope [] _ moved).bind fun read held => ?_
      split
      · trivial
      · exact (kept.close held).bind fun _ held => held
    · exact (kept.close held).bind fun _ held => held

end KeepsAt

/-- **The three mutual readers keep what no step of reading breaks.** -/
theorem keeps_read {holds : Ledger → Prop} (kept : Ledger.Kept holds) (fuel : Nat) :
    KeepsAt holds fuel := by
  induction fuel with
  | zero => exact ⟨fun _ _ _ => trivial, fun _ _ _ _ => trivial, fun _ _ _ _ _ => trivial⟩
  | succ fuel ih => exact ⟨ih.alternatives_succ kept, ih.row_succ kept, ih.group_succ kept⟩

/-! ### Headers -/

/-- How a text opens a group of a name. -/
def opener (name : Text) : Text :=
  "(?P<".toList ++ name ++ ['>']

/-- A name and its closing character are read as they stand. -/
theorem spell_readName {closing : Char} {start name : Text} {rest left : List Lexeme}
    (isRead : readName closing start rest = .ok (name, left)) :
    start.reverse ++ rest.flatMap Lexeme.spell = name ++ closing :: left.flatMap Lexeme.spell := by
  fun_induction readName closing start rest with
  | case1 => cases isRead
  | case2 start rest nonempty =>
    cases isRead
    rfl
  | case3 start char rest other ih =>
    rw [← ih isRead]
    simp [Lexeme.spell]
  | case4 start char rest ih =>
    rw [← ih isRead]
    simp [Lexeme.spell]
  | case5 => cases isRead

/-- What stands at the start of a group whose header has a name for it. -/
def Header.Introduces (inside : List Lexeme) : Header → Prop
  | .capture (some name) =>
    isIdentifier name = true ∧ opener name <+: (Lexeme.plain '(' :: inside).flatMap Lexeme.spell
  | _ => True

/-- The header of a named group has a name that was judged and stands between angle brackets. -/
theorem yields_readHeader (modes : Modes) (inside : List Lexeme) :
    Yields (fun read => read.1.Introduces inside) (readHeader modes inside) := by
  unfold readHeader
  split
  · rename_i rest
    refine (Yields.given (readName '>' [] rest)).bind fun read isRead => ?_
    obtain ⟨name, left⟩ := read
    dsimp only
    split
    · rename_i judged
      refine ⟨judged, left.flatMap Lexeme.spell, ?_⟩
      have spelled : rest.flatMap Lexeme.spell = name ++ '>' :: left.flatMap Lexeme.spell :=
        spell_readName isRead
      simp [opener, Lexeme.spell, spelled]
    · trivial
  · refine Yields.after fun read => ?_
    dsimp only
    split <;> trivial
  · trivial
  · rename_i rest
    cases skipComment rest <;> trivial
  · trivial
  · trivial
  · trivial
  · trivial
  · trivial
  · exact Yields.after fun _ => trivial
  · split
    · trivial
    · refine Yields.after fun read => ?_
      obtain ⟨group, left⟩ := read
      cases group <;> trivial
  · trivial
  · trivial

/-! ### Names -/

/-- What is left is an ending of the whole, which introduces the names that are known. -/
structure Ledger.Named (whole : List Lexeme) (ledger : Ledger) : Prop where
  ending : ledger.rest <:+ whole
  names : ∀ entry ∈ ledger.names, isIdentifier entry.1 = true ∧
    ∃ found, found <:+ whole ∧ opener entry.1 <+: found.flatMap Lexeme.spell

theorem Ledger.kept_named (whole : List Lexeme) : Kept (Named whole) where
  move named ending := ⟨ending.trans named.ending, named.names⟩
  openGroup {ledger opened modes inside left name group} named opens isRead isOpened := by
    have introduces := yields_readHeader modes inside
    have behind := follows_readHeader modes inside
    have onward := follows_openGroup { ledger with rest := left } name
    rw [isRead] at introduces behind
    rw [isOpened] at onward
    have here : .plain '(' :: inside <:+ whole := opens ▸ named.ending
    refine ⟨onward.trans (behind.trans ((List.suffix_cons _ _).trans here)), fun entry member => ?_⟩
    rw [names_openGroup isOpened] at member
    rcases List.mem_append.mp member with before | new
    · exact named.names entry before
    · obtain ⟨known, rfl, rfl⟩ := Option.map_eq_some_iff.mp (Option.mem_toList.mp new)
      obtain ⟨judged, starts⟩ := introduces
      exact ⟨judged, _, here, starts⟩
  closeGroup _ _ named := ⟨named.ending, named.names⟩
  condition _ named := ⟨named.ending, named.names⟩
  vary _ named := ⟨named.ending, named.names⟩

/-- The names of the expression of lexemes are identifiers, and what these spell introduces them. -/
theorem named_of_readLexemes {found : List Lexeme} {expression : Expression}
    (isRead : readLexemes found = .ok expression) :
    ∀ entry ∈ expression.names,
      isIdentifier entry.1 = true ∧ opener entry.1 <:+: found.flatMap Lexeme.spell := by
  have yields : Yields (fun expression => ∀ entry ∈ expression.names,
      isIdentifier entry.1 = true ∧ opener entry.1 <:+: found.flatMap Lexeme.spell)
      (readLexemes found) := by
    unfold readLexemes
    refine (follows_readOpening {} false (Nat.lt_succ_self found.length)).yields.bind
      fun opening ending => ?_
    obtain ⟨modes, clash, rest⟩ := opening
    have start : Ledger.Named found { rest } := ⟨ending, nofun⟩
    refine ((keeps_read (Ledger.kept_named _) _).alternatives _ _ start).bind fun body named => ?_
    dsimp only
    repeat
      split
      · trivial
    intro entry member
    obtain ⟨judged, introduction, ending, starts⟩ := named.names entry member
    exact ⟨judged, infix_of_suffix ending starts⟩
  rw [isRead] at yields
  exact yields

/-- **The names of an expression are identifiers, and its text introduces them.** -/
theorem named_of_read [CharacterNames] {text : Text} {expression : Expression}
    (isRead : read text = .ok expression) :
    ∀ entry ∈ expression.names, isIdentifier entry.1 = true ∧ opener entry.1 <:+: text := by
  have named := named_of_readLexemes isRead
  rwa [spell_resolved] at named

/-- The names of an expression are identifiers. -/
theorem isIdentifier_of_read [CharacterNames] {text : Text} {expression : Expression}
    (isRead : read text = .ok expression) :
    ∀ entry ∈ expression.names, isIdentifier entry.1 = true :=
  fun entry member => (named_of_read isRead entry member).1

end GrokEvents.Expr
