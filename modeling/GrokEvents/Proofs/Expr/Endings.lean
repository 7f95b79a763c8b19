/-
**What reading leaves.**

Reading goes through the lexemes of an expression from the left: what is left at any moment is an
ending of what there was, so that the number of lexemes bounds the fuel that reading takes. A reader
that ends in a fault does so because of something in that ending.

* `Follows.bind`: one reader after the other leaves an ending.
* `asksForAll_of_readOpening`: a clash of alphabets comes from a group of letters.
* `follows_read`: the three mutual readers leave endings and finish, and their faults are counts
  that stand in what they read.
* `read_ne_unfinished`: no text is refused for want of fuel.
-/

import Mathlib.Data.List.Infix
import GrokEvents.Expr.Reader

namespace GrokEvents.Expr

open Text

/-! ### Endings -/

/-- A braced quantifier in what is left asks for a count that ends in a fault. -/
def Overcounts (fault : Fault) (rest : List Lexeme) : Prop :=
  ∃ inside least most after, (.plain '{' :: inside) <:+ rest ∧
    readBounds? inside = some (least, most, after) ∧
      readRounds least most after = .error (.fault fault)

theorem Overcounts.mono {fault : Fault} {left rest : List Lexeme} (counted : Overcounts fault left)
    (ending : left <:+ rest) : Overcounts fault rest := by
  obtain ⟨inside, least, most, after, stands, bounds, rounds⟩ := counted
  exact ⟨inside, least, most, after, stands.trans ending, bounds, rounds⟩

/-- What is left after reading is an ending of what there was, a fault is a count in it, and reading has
finished. -/
def Follows {Value : Type} (left : Value → List Lexeme) (rest : List Lexeme) :
    Except Flaw Value → Prop
  | .ok value => left value <:+ rest
  | .error (.malformed cause) => cause ≠ .unfinished
  | .error (.fault fault) => Overcounts fault rest

namespace Follows

variable {First Second : Type} {left : First → List Lexeme} {afterwards : Second → List Lexeme}
  {rest : List Lexeme}

theorem mono {outcome : Except Flaw First} {shorter : List Lexeme}
    (follows : Follows left shorter outcome) (ending : shorter <:+ rest) :
    Follows left rest outcome := by
  match outcome, follows with
  | .ok _, follows => exact follows.trans ending
  | .error (.malformed _), finished => exact finished
  | .error (.fault _), counted => exact Overcounts.mono counted ending

theorem bind {first : Except Flaw First} {next : First → Except Flaw Second}
    (one : Follows left rest first)
    (two : ∀ value, left value <:+ rest → Follows afterwards (left value) (next value)) :
    Follows afterwards rest (first >>= next) := by
  match first, one with
  | .ok value, ending => exact (two value ending).mono ending
  | .error (.malformed _), finished => exact finished
  | .error (.fault _), counted => exact counted

theorem map {first : Except Flaw First} {value : First → Second}
    (one : Follows left rest first) (same : ∀ read, afterwards (value read) = left read) :
    Follows afterwards rest (first.map value) := by
  match first, one with
  | .ok read, ending =>
    show afterwards (value read) <:+ rest
    rw [same]
    exact ending
  | .error (.malformed _), finished => exact finished
  | .error (.fault _), counted => exact counted

end Follows

/-! ### Escapes and sets -/

theorem suffix_cons_cons {first second : Lexeme} {rest : List Lexeme} :
    rest <:+ first :: second :: rest :=
  (List.suffix_cons _ _).trans (List.suffix_cons _ _)

theorem suffix_cons_cons_cons {first second third : Lexeme} {rest : List Lexeme} :
    rest <:+ first :: second :: third :: rest :=
  suffix_cons_cons.trans (List.suffix_cons _ _)

theorem takePlain_suffix (test : Char → Bool) (count : Nat) (rest : List Lexeme) :
    (takePlain test count rest).2 <:+ rest :=
  ⟨_, (takePlain_eq test count rest).1.symm⟩

theorem follows_readHex (count : Nat) (rest : List Lexeme) :
    Follows Prod.snd rest (readHex count rest) := by
  unfold readHex
  dsimp only
  split
  · nofun
  · split
    · nofun
    · exact takePlain_suffix _ _ _

theorem follows_readItself (char : Char) (rest : List Lexeme) :
    Follows Prod.snd rest (readItself char rest) := by
  unfold readItself
  split
  · nofun
  · split
    · nofun
    · exact List.suffix_rfl

theorem follows_readSetEscape (char : Char) (rest : List Lexeme) :
    Follows Prod.snd rest (readSetEscape char rest) := by
  unfold readSetEscape
  split
  · exact List.suffix_rfl
  · exact (follows_readHex _ rest).map fun _ => rfl
  · split
    · exact List.suffix_rfl
    · split
      · exact List.suffix_rfl
      · split
        · dsimp only
          split
          · nofun
          · exact takePlain_suffix _ _ _
        · exact (follows_readItself char rest).map fun _ => rfl

theorem follows_readSetItem (lexeme : Lexeme) (rest : List Lexeme) :
    Follows Prod.snd rest (readSetItem lexeme rest) := by
  cases lexeme with
  | plain char => exact List.suffix_rfl
  | escape char => exact follows_readSetEscape char rest
  | named name char => exact List.suffix_rfl
  | dangling => nofun

theorem follows_rangeItem (first last : SetItem) (rest : List Lexeme) :
    Follows (fun _ => rest) rest (rangeItem first last) := by
  unfold rangeItem
  split
  · split
    · nofun
    · exact List.suffix_rfl
  · nofun

theorem follows_readSetItems {fuel : Nat} (items : List SetItem) {rest : List Lexeme}
    (enough : rest.length < fuel) : Follows Prod.snd rest (readSetItems fuel items rest) := by
  induction fuel generalizing items rest with
  | zero => omega
  | succ fuel ih =>
    cases rest with
    | nil => nofun
    | cons lexeme rest =>
      rw [List.length_cons] at enough
      rw [readSetItems]
      split
      · exact List.suffix_cons _ _
      · refine ((follows_readSetItem lexeme rest).bind fun read ending => ?_).mono
          (List.suffix_cons _ _)
        obtain ⟨item, left⟩ := read
        have shorter : left.length ≤ rest.length := ending.length_le
        dsimp only
        split
        · rename_i after
          exact suffix_cons_cons
        · rename_i other after _
          refine ((follows_readSetItem other after).bind fun read ending => ?_).mono suffix_cons_cons
          obtain ⟨last, left⟩ := read
          have shorter : left.length ≤ after.length := ending.length_le
          simp only [List.length_cons] at *
          exact (follows_rangeItem item last left).bind fun range _ => ih _ (by omega)
        · nofun
        · exact ih _ (by omega)

theorem follows_itemsOf (outside : Bool) (rest : List Lexeme) :
    Follows (fun read => read.2.2) rest (do
      let (items, left) ← readSetItems (rest.length + 1) [] rest
      return (items, outside, left)) := by
  refine (follows_readSetItems [] (Nat.lt_succ_self _)).bind fun _ _ => ?_
  exact List.suffix_rfl

theorem follows_readSet (rest : List Lexeme) :
    Follows (fun read => read.2.2) rest (readSet rest) := by
  unfold readSet
  split
  · exact (follows_itemsOf true _).mono (List.suffix_cons _ _)
  · exact follows_itemsOf false rest

/-! ### Letters and comments -/

theorem follows_readOffFlags (on off : List Flag) (rest : List Lexeme) :
    Follows Prod.snd rest (readOffFlags on off rest) := by
  induction rest generalizing off with
  | nil => nofun
  | cons lexeme rest ih =>
    unfold readOffFlags
    split
    · rename_i same
      obtain ⟨rfl, rfl⟩ := List.cons.inj same
      split
      · split
        · nofun
        · exact (ih _).mono (List.suffix_cons _ _)
      · split
        · exact List.suffix_cons _ _
        · nofun
    · nofun

theorem follows_readFlags (on : List Flag) (rest : List Lexeme) :
    Follows Prod.snd rest (readFlags on rest) := by
  induction rest generalizing on with
  | nil => nofun
  | cons lexeme rest ih =>
    unfold readFlags
    split
    · rename_i same
      obtain ⟨rfl, rfl⟩ := List.cons.inj same
      split
      · split
        · nofun
        · exact (ih _).mono (List.suffix_cons _ _)
      · split
        · exact List.suffix_cons _ _
        · split
          · nofun
          · split
            · exact (follows_readOffFlags _ [] _).mono (List.suffix_cons _ _)
            · split
              · exact List.suffix_cons _ _
              · nofun
    · nofun

theorem follows_skipComment (rest : List Lexeme) : Follows id rest (skipComment rest) := by
  fun_induction skipComment rest with
  | case1 => nofun
  | case2 rest => exact List.suffix_cons _ _
  | case3 lexeme rest _ ih => exact ih.mono (List.suffix_cons _ _)

theorem skipLine_suffix (rest : List Lexeme) : skipLine rest <:+ rest := by
  fun_induction skipLine rest with
  | case1 => exact List.suffix_rfl
  | case2 rest => exact List.suffix_cons _ _
  | case3 rest => exact List.suffix_rfl
  | case4 lexeme rest _ _ ih => exact ih.trans (List.suffix_cons _ _)

/-- A group of letters in what is left asks for all scripts. -/
def AsksForAll (rest : List Lexeme) : Prop :=
  ∃ inside on left, (.plain '(' :: .plain '?' :: inside) <:+ rest ∧
    readFlags [] inside = .ok (.global on, left) ∧ Flag.wide ∈ on

theorem AsksForAll.mono {left rest : List Lexeme} (asks : AsksForAll left) (ending : left <:+ rest) :
    AsksForAll rest := by
  obtain ⟨inside, on, after, stands, read, wide⟩ := asks
  exact ⟨inside, on, after, stands.trans ending, read, wide⟩

theorem follows_readOpening {fuel : Nat} (modes : Modes) (clash : Bool) {rest : List Lexeme}
    (enough : rest.length < fuel) :
    Follows (fun opened => opened.2.2) rest (readOpening fuel modes clash rest) := by
  fun_induction readOpening fuel modes clash rest with
  | case1 => omega
  | case2 fuel modes clash rest ih =>
    refine ((follows_skipComment rest).bind fun left ending => ih left ?_).mono suffix_cons_cons_cons
    have shorter : left.length ≤ rest.length := ending.length_le
    simp only [List.length_cons] at enough
    omega
  | case3 => exact List.suffix_rfl
  | case4 fuel modes clash char rest _ _ ih =>
    have flags := follows_readFlags [] (.plain char :: rest)
    match read : readFlags [] (.plain char :: rest) with
    | .ok (.global on, left) =>
      rw [read] at flags
      have shorter : left.length ≤ rest.length + 1 := List.IsSuffix.length_le flags
      simp only [List.length_cons] at enough
      exact (ih on left (by omega)).mono (flags.trans suffix_cons_cons)
    | .ok (.scoped on off, left) => exact List.suffix_rfl
    | .error (.malformed cause) =>
      rw [read] at flags
      exact flags
    | .error (.fault fault) =>
      rw [read] at flags
      exact Overcounts.mono flags suffix_cons_cons
  | case5 fuel modes clash char rest _ _ _ ih =>
    exact (ih (Nat.lt_of_succ_lt_succ enough)).mono (List.suffix_cons _ _)
  | case6 fuel modes clash char rest _ _ _ _ ih =>
    have ending := skipLine_suffix rest
    exact (ih (ending.length_le.trans_lt (Nat.lt_of_succ_lt_succ enough))).mono
      (ending.trans (List.suffix_cons _ _))
  | case7 => exact List.suffix_rfl
  | case8 => exact List.suffix_rfl

/-- A clash of alphabets comes from a group of letters that asks for all scripts. -/
theorem asksForAll_of_readOpening {fuel : Nat} {modes opened : Modes} {clash : Bool}
    {rest left : List Lexeme} (read : readOpening fuel modes clash rest = .ok (opened, true, left)) :
    clash = true ∨ AsksForAll rest := by
  fun_induction readOpening fuel modes clash rest with
  | case1 => cases read
  | case2 fuel modes clash rest ih =>
    have skipped := follows_skipComment rest
    match comment : skipComment rest with
    | .ok after =>
      rw [comment] at read skipped
      exact (ih after read).imp_right fun asks => asks.mono (skipped.trans suffix_cons_cons_cons)
    | .error flaw =>
      rw [comment] at read
      cases read
  | case3 fuel modes clash char rest => exact .inl (by cases read; rfl)
  | case4 fuel modes clash char rest _ _ ih =>
    have flags := follows_readFlags [] (.plain char :: rest)
    match letters : readFlags [] (.plain char :: rest) with
    | .ok (.global on, after) =>
      rw [letters] at read flags
      rcases ih on after read with asked | asks
      · rcases Bool.or_eq_true_iff.mp asked with before | wide
        · exact .inl before
        · exact .inr ⟨_, on, after, List.suffix_rfl, letters, by simpa using wide⟩
      · exact .inr (asks.mono (flags.trans suffix_cons_cons))
    | .ok (.scoped on off, after) =>
      rw [letters] at read
      exact .inl (by cases read; rfl)
    | .error flaw =>
      rw [letters] at read
      cases read
  | case5 fuel modes clash char rest _ _ _ ih =>
    exact (ih read).imp_right fun asks => asks.mono (List.suffix_cons _ _)
  | case6 fuel modes clash char rest _ _ _ _ ih =>
    exact (ih read).imp_right fun asks =>
      asks.mono ((skipLine_suffix rest).trans (List.suffix_cons _ _))
  | case7 => exact .inl (by cases read; rfl)
  | case8 => exact .inl (by cases read; rfl)

/-! ### Items and headers -/

theorem follows_checkBehind (scope : Scope) (ledger : Ledger) (group : Nat) (rest : List Lexeme) :
    Follows (fun _ => rest) rest (checkBehind scope ledger group) := by
  unfold checkBehind
  split
  · exact List.suffix_rfl
  · split
    · nofun
    · split
      · nofun
      · exact List.suffix_rfl

theorem follows_recallNode (scope : Scope) (ledger : Ledger) (group : Nat) (rest : List Lexeme) :
    Follows (fun _ => rest) rest (recallNode scope ledger group) := by
  unfold recallNode
  split
  · nofun
  · refine (follows_checkBehind scope ledger group rest).bind fun _ _ => ?_
    exact List.suffix_rfl

theorem follows_readDigitEscape (scope : Scope) (ledger : Ledger) (char : Char)
    (rest : List Lexeme) : Follows Prod.snd rest (readDigitEscape scope ledger char rest) := by
  have one := takePlain_suffix Char.isDigit 1 rest
  have two := takePlain_suffix isOctal 1 (takePlain Char.isDigit 1 rest).2
  unfold readDigitEscape
  dsimp only
  split
  · split
    · nofun
    · exact two.trans one
  · split
    · nofun
    · refine ((follows_recallNode scope ledger _ _).bind fun _ _ => ?_).mono one
      exact List.suffix_rfl

theorem follows_readEscape (scope : Scope) (ledger : Ledger) (char : Char) (rest : List Lexeme) :
    Follows Prod.snd rest (readEscape scope ledger char rest) := by
  unfold readEscape
  dsimp only
  split
  · exact List.suffix_rfl
  · exact List.suffix_rfl
  · exact List.suffix_rfl
  · exact (follows_readHex _ rest).map fun _ => rfl
  · split
    · exact takePlain_suffix _ _ _
    · split
      · exact follows_readDigitEscape scope ledger char rest
      · exact (follows_readItself char rest).map fun _ => rfl

theorem readAppetite_suffix (rest : List Lexeme) : (readAppetite rest).2 <:+ rest := by
  unfold readAppetite
  split
  · exact List.suffix_cons _ _
  · exact List.suffix_cons _ _
  · exact List.suffix_rfl

theorem follows_loopItem (least : Nat) (most : Option Nat) (rest : List Lexeme)
    (items : List Item) : Follows Prod.snd rest (loopItem least most rest items) := by
  unfold loopItem
  split
  · exact readAppetite_suffix rest
  · nofun
  · nofun

theorem follows_readName (closing : Char) (name : Text) (rest : List Lexeme) :
    Follows Prod.snd rest (readName closing name rest) := by
  fun_induction readName closing name rest with
  | case1 => nofun
  | case2 => exact List.suffix_cons _ _
  | case3 name char rest _ ih => exact ih.mono (List.suffix_cons _ _)
  | case4 name char rest ih => exact ih.mono (List.suffix_cons _ _)
  | case5 => nofun

theorem follows_conditionGroup (ledger : Ledger) (name : Text) (rest : List Lexeme) :
    Follows (fun _ => rest) rest (conditionGroup ledger name) := by
  unfold conditionGroup
  split
  · split
    · exact List.suffix_rfl
    · nofun
  · split
    · nofun
    · split
      · nofun
      · split
        · nofun
        · exact List.suffix_rfl

theorem follows_nameOf (closing : Char) (header : Text → Header) (rest : List Lexeme) :
    Follows Prod.snd rest (do
      let (name, left) ← readName closing [] rest
      if isIdentifier name then return (header name, left) else malformed .badName) := by
  refine (follows_readName closing [] rest).bind fun _ _ => ?_
  dsimp only
  split
  · exact List.suffix_rfl
  · nofun

theorem follows_readHeader (modes : Modes) (rest : List Lexeme) :
    Follows Prod.snd rest (readHeader modes rest) := by
  unfold readHeader
  split
  · exact (follows_nameOf '>' (fun name => .capture (some name)) _).mono suffix_cons_cons_cons
  · exact (follows_nameOf ')' .recall _).mono suffix_cons_cons_cons
  · exact suffix_cons_cons
  · refine Follows.mono (Follows.map (follows_skipComment _) ?_) suffix_cons_cons
    exact fun _ => rfl
  · exact suffix_cons_cons
  · exact suffix_cons_cons
  · exact suffix_cons_cons_cons
  · exact suffix_cons_cons_cons
  · exact suffix_cons_cons
  · refine ((follows_readName ')' [] _).bind fun _ _ => ?_).mono suffix_cons_cons
    exact List.suffix_rfl
  · split
    · nofun
    · refine ((follows_readFlags [] _).bind fun read _ => ?_).mono (List.suffix_cons _ _)
      obtain ⟨group, left⟩ := read
      cases group with
      | global on => nofun
      | «scoped» on off => exact List.suffix_rfl
  · nofun
  · exact List.suffix_rfl

/-! ### Counts -/

theorem readBounds?_suffix {rest after : List Lexeme} {least most : Text}
    (bounds : readBounds? rest = some (least, most, after)) : after <:+ rest := by
  have one := takePlain_suffix Char.isDigit rest.length rest
  unfold readBounds? at bounds
  dsimp only at bounds
  split at bounds
  · rename_i first comma
    have two := takePlain_suffix Char.isDigit first.length first
    split at bounds
    · rename_i second brace
      obtain ⟨rfl, rfl, rfl⟩ := bounds
      rw [brace] at two
      rw [comma] at one
      exact (List.suffix_cons _ _).trans (two.trans ((List.suffix_cons _ _).trans one))
    · cases bounds
  · rename_i first brace
    rw [brace] at one
    split at bounds
    · cases bounds
    · obtain ⟨rfl, rfl, rfl⟩ := bounds
      exact (List.suffix_cons _ _).trans one
  · cases bounds

theorem error_of_bind {First Second : Type} {first : Except Flaw First}
    {next : First → Except Flaw Second} {flaw : Flaw} (ended : first >>= next = .error flaw) :
    first = .error flaw ∨ ∃ value, first = .ok value ∧ next value = .error flaw := by
  cases first with
  | error other =>
    cases ended
    exact .inl rfl
  | ok value => exact .inr ⟨value, rfl, ended⟩

theorem readCount_ne_unfinished (digits : Text) :
    readCount digits ≠ .error (.malformed .unfinished) := by
  unfold readCount
  dsimp only
  split
  · nofun
  · split
    · nofun
    · split <;> nofun

/-- What is wrong with the rounds of a loop is wrong with one of its counts, unless the counts are
crossed or a backslash dangles behind them. -/
theorem error_of_readRounds {least most : Text} {after : List Lexeme} {flaw : Flaw}
    (ended : readRounds least most after = .error flaw) :
    readCount least = .error flaw ∨ readCount most = .error flaw ∨
      ∃ cause, flaw = .malformed cause ∧ cause ≠ .unfinished := by
  unfold readRounds at ended
  split at ended
  · exact .inr (.inr ⟨.danglingBackslash, (Except.error.inj ended).symm, nofun⟩)
  · rcases error_of_bind ended with low | ⟨low, _, ended⟩
    · exact .inl low
    · rcases error_of_bind ended with high | ⟨high, _, ended⟩
      · exact .inr (.inl high)
      · cases high with
        | none => cases ended
        | some limit =>
          have crossed : (if limit < low.getD 0 then malformed .crossedBounds
            else .ok (low.getD 0, some limit)) = Except.error flaw := ended
          split at crossed
          · exact .inr (.inr ⟨.crossedBounds, (Except.error.inj crossed).symm, nofun⟩)
          · cases crossed

theorem follows_readRounds {inside after : List Lexeme} {least most : Text}
    (bounds : readBounds? inside = some (least, most, after)) :
    Follows (fun _ => after) (.plain '\x7b' :: inside) (readRounds least most after) := by
  match rounds : readRounds least most after with
  | .ok _ => exact (readBounds?_suffix bounds).trans (List.suffix_cons _ _)
  | .error (.malformed cause) =>
    show cause ≠ .unfinished
    rintro rfl
    rcases error_of_readRounds rounds with low | high | ⟨cause, same, finished⟩
    · exact readCount_ne_unfinished least low
    · exact readCount_ne_unfinished most high
    · cases same
      exact finished rfl
  | .error (.fault _) => exact ⟨inside, least, most, after, List.suffix_rfl, bounds, rounds⟩

/-! ### Rows, alternatives and groups -/

theorem Ledger.follows_openGroup (ledger : Ledger) (name : Option Text) :
    Follows (fun opened => opened.2.rest) ledger.rest (ledger.openGroup name) := by
  unfold Ledger.openGroup
  dsimp only
  split
  · exact List.suffix_rfl
  · split
    · nofun
    · exact List.suffix_rfl

theorem Ledger.follows_close (ledger : Ledger) : Follows Ledger.rest ledger.rest ledger.close := by
  unfold Ledger.close
  split
  · rename_i rest closed
    rw [closed]
    exact List.suffix_cons _ _
  · nofun

/-- The three mutual readers, with fuel enough for what there is, leave endings and finish. -/
structure FollowsAt (fuel : Nat) : Prop where
  alternatives : ∀ scope ledger, 3 * ledger.rest.length + 2 ≤ fuel →
    Follows (fun read => read.2.rest) ledger.rest (readAlternatives fuel scope ledger)
  row : ∀ scope items ledger, 3 * ledger.rest.length + 1 ≤ fuel →
    Follows (fun read => read.2.rest) ledger.rest (readRow fuel scope items ledger)
  group : ∀ scope ledger, 3 * ledger.rest.length + 3 ≤ fuel →
    Follows (fun read => read.2.rest) ledger.rest (readGroup fuel scope ledger)

namespace FollowsAt

variable {fuel : Nat}

theorem alternatives_succ (less : FollowsAt fuel) (scope : Scope) (ledger : Ledger)
    (enough : 3 * ledger.rest.length + 2 ≤ fuel + 1) :
    Follows (fun read => read.2.rest) ledger.rest (readAlternatives (fuel + 1) scope ledger) := by
  rw [readAlternatives]
  refine (less.row scope [] ledger (by omega)).bind fun read ending => ?_
  have shorter := ending.length_le
  obtain ⟨first, ledger⟩ := read
  dsimp only at shorter ⊢
  split
  · rename_i rest bar
    rw [bar, List.length_cons] at shorter
    rw [bar]
    refine Follows.mono ?_ (List.suffix_cons _ rest)
    refine (less.alternatives scope { ledger with rest } ?_).bind fun _ _ => ?_
    · show 3 * rest.length + 2 ≤ fuel
      omega
    · exact List.suffix_rfl
  · exact List.suffix_rfl

theorem row_succ (less : FollowsAt fuel) (scope : Scope) (items : List Item) (ledger : Ledger)
    (enough : 3 * ledger.rest.length + 1 ≤ fuel + 1) :
    Follows (fun read => read.2.rest) ledger.rest (readRow (fuel + 1) scope items ledger) := by
  -- The row goes on with what a reader has left, of which there is less than at its start.
  have onward (items : List Item) {left whole : List Lexeme} (ending : left <:+ whole)
      (shorter : left.length < ledger.rest.length) :
      Follows (fun read => read.2.rest) whole
        (readRow fuel scope items { ledger with rest := left }) := by
    refine (less.row scope items { ledger with rest := left } ?_).mono ending
    show 3 * left.length + 1 ≤ fuel
    omega
  rw [readRow]
  dsimp only
  split
  · exact List.suffix_rfl
  · nofun
  · rename_i char rest escape
    have shorter : rest.length < ledger.rest.length := by simp [escape]
    rw [escape]
    refine ((follows_readEscape scope ledger char rest).bind fun _ ending => ?_).mono
      (List.suffix_cons _ _)
    exact onward _ List.suffix_rfl (ending.length_le.trans_lt shorter)
  · rename_i name char rest named
    rw [named]
    exact onward _ (List.suffix_cons _ _) (by simp [named])
  · rename_i char rest plain
    have shorter : rest.length < ledger.rest.length := by simp [plain]
    rw [plain]
    split
    · show ledger.rest <:+ _
      rw [plain]
    · split
      · exact onward _ (List.suffix_cons _ _) shorter
      · split
        · have ending := skipLine_suffix rest
          exact onward _ (ending.trans (List.suffix_cons _ _)) (ending.length_le.trans_lt shorter)
        · split
          · refine ((less.group scope { ledger with rest } ?_).bind fun read ending => ?_).mono
              (List.suffix_cons _ _)
            · show 3 * rest.length + 3 ≤ fuel
              omega
            · have shorter := ending.length_le.trans_lt shorter
              exact less.row scope _ read.2 (by omega)
          · split
            · refine ((follows_readSet rest).bind fun _ ending => ?_).mono (List.suffix_cons _ _)
              exact onward _ List.suffix_rfl (ending.length_le.trans_lt shorter)
            · split
              · refine ((follows_loopItem _ _ rest items).bind fun _ ending => ?_).mono
                  (List.suffix_cons _ _)
                exact onward _ List.suffix_rfl (ending.length_le.trans_lt shorter)
              · split
                · rename_i brace
                  subst brace
                  split
                  · exact onward _ (List.suffix_cons _ _) shorter
                  · rename_i least most after bounds
                    have shorter := (readBounds?_suffix bounds).length_le.trans_lt shorter
                    refine (follows_readRounds bounds).bind fun counts _ => ?_
                    refine (follows_loopItem counts.1 counts.2 after items).bind fun _ ending => ?_
                    exact onward _ List.suffix_rfl (ending.length_le.trans_lt shorter)
                · exact onward _ (List.suffix_cons _ _) shorter

/-- A body up to its closing parenthesis, and what is made of it. -/
theorem enclosed (less : FollowsAt fuel) (scope : Scope) (ledger : Ledger)
    (enough : 3 * ledger.rest.length + 2 ≤ fuel) (item : Node → Ledger → Option Item × Ledger)
    (keeps : ∀ body ledger, (item body ledger).2.rest = ledger.rest) :
    Follows (fun read => read.2.rest) ledger.rest (do
      let (body, ledger) ← readAlternatives fuel scope ledger
      return item body (← ledger.close)) := by
  refine (less.alternatives scope ledger enough).bind fun read _ => ?_
  refine read.2.follows_close.bind fun ledger _ => ?_
  show (item read.1 ledger).2.rest <:+ _
  rw [keeps]

theorem group_succ (less : FollowsAt fuel) (scope : Scope) (ledger : Ledger)
    (enough : 3 * ledger.rest.length + 3 ≤ fuel + 1) :
    Follows (fun read => read.2.rest) ledger.rest (readGroup (fuel + 1) scope ledger) := by
  rw [readGroup]
  refine (follows_readHeader scope.modes ledger.rest).bind fun read ending => ?_
  obtain ⟨header, rest⟩ := read
  have shorter : rest.length ≤ ledger.rest.length := ending.length_le
  have enough : 3 * rest.length + 2 ≤ fuel := by omega
  dsimp only
  split
  · exact List.suffix_rfl
  · split
    · nofun
    · refine (follows_recallNode scope _ _ rest).bind fun _ _ => ?_
      exact List.suffix_rfl
  · rename_i name
    refine (Ledger.follows_openGroup { ledger with rest } name).bind fun read ending => ?_
    have shorter : read.2.rest.length ≤ rest.length := ending.length_le
    obtain ⟨group, ledger⟩ := read
    exact less.enclosed scope ledger (by dsimp only at shorter; omega)
      (fun body ledger => (some ⟨.capture group body, .repeatable⟩, ledger.closeGroup group body))
      fun _ _ => rfl
  · rename_i modes
    exact less.enclosed { scope with modes } { ledger with rest } enough
      (fun body ledger => (some ⟨body, .repeatable⟩, ledger)) fun _ _ => rfl
  · exact less.enclosed scope { ledger with rest } enough
      (fun body ledger => (some ⟨.atomic body, .repeatable⟩, ledger)) fun _ _ => rfl
  · rename_i negated
    exact less.enclosed scope { ledger with rest } enough
      (fun body ledger => (some ⟨.ahead negated body, .repeatable⟩, ledger)) fun _ _ => rfl
  · rename_i negated
    exact less.enclosed _ { ledger with rest } enough
      (fun body ledger =>
        let width := body.width ledger.groupWidth
        (some ⟨.behind width.least negated body, .repeatable⟩,
          { ledger with varies := ledger.varies || width.varies }))
      fun _ _ => rfl
  · rename_i name
    refine (follows_conditionGroup _ name rest).bind fun read _ => ?_
    obtain ⟨group, byNumber⟩ := read
    refine (follows_checkBehind scope _ group rest).bind fun _ _ => ?_
    let counted : Ledger :=
      if byNumber then { ledger with rest, conditions := group :: ledger.conditions }
      else { ledger with rest }
    have start : counted.rest = rest := by
      cases byNumber <;> rfl
    have first := less.row scope [] counted (by rw [start]; omega)
    rw [start] at first
    refine first.bind fun read ending => ?_
    have shorter := ending.length_le
    obtain ⟨present, ledger⟩ := read
    dsimp only at shorter ⊢
    split
    · rename_i rest bar
      rw [bar, List.length_cons] at shorter
      rw [bar]
      refine Follows.mono ?_ (List.suffix_cons _ rest)
      refine (less.row scope [] { ledger with rest } (by dsimp only; omega)).bind fun read _ => ?_
      obtain ⟨absent, ledger⟩ := read
      dsimp only
      split
      · nofun
      · refine ledger.follows_close.bind fun ledger _ => ?_
        exact List.suffix_rfl
    · refine ledger.follows_close.bind fun ledger _ => ?_
      exact List.suffix_rfl

end FollowsAt

/-- The three mutual readers leave endings and finish, and their faults are counts that stand in what
they read. -/
theorem follows_read (fuel : Nat) : FollowsAt fuel := by
  induction fuel with
  | zero =>
    exact ⟨fun _ _ enough => absurd enough (Nat.not_succ_le_zero _),
      fun _ _ _ enough => absurd enough (Nat.not_succ_le_zero _),
      fun _ _ enough => absurd enough (Nat.not_succ_le_zero _)⟩
  | succ fuel ih => exact ⟨ih.alternatives_succ, ih.row_succ, ih.group_succ⟩

/-- **No text is refused for want of fuel.** -/
theorem read_ne_unfinished [CharacterNames] (text : Text) :
    read text ≠ .error (.malformed .unfinished) := by
  intro unfinished
  rcases error_of_bind unfinished with ended | ⟨⟨modes, clash, rest⟩, _, unfinished⟩
  · have opening := follows_readOpening {} false (Nat.lt_succ_self (resolveNames (lexemes text)).length)
    rw [ended] at opening
    exact opening rfl
  · rcases error_of_bind unfinished with ended | ⟨⟨node, ledger⟩, _, unfinished⟩
    · have body := (follows_read (3 * rest.length + 4)).alternatives ⟨modes, none⟩ { rest } (by simp)
      rw [ended] at body
      exact body rfl
    · dsimp only at unfinished
      repeat
        split at unfinished
        · cases unfinished
      cases unfinished

end GrokEvents.Expr
