/-
**Atoms and quantifiers are read alone.**

An atom comes to the same item whatever follows it, and so does a quantifier where what follows
leaves it alone: no quantifier stands behind another one.

* `readSet_append`: a set is read alike whatever follows it.
* `readRow_atom`: an atom in a row.
* `readRow_count`: a quantifier in a row.
-/

import GrokEvents.Proofs.Expr.Phrase

namespace GrokEvents.Expr

open Text

/-! ### What leaves alone -/

/-- Whether a lexeme leaves alone what stands before it. -/
def Lexeme.isCalm : Lexeme → Bool
  | .plain char => !(['*', '+', '?', '{'].contains char)
  | .escape _ | .named .. => true
  | .dangling => false

/-- What follows leaves alone what stands before it. -/
def Calm (rest : List Lexeme) : Prop :=
  ∀ lexeme ∈ rest.head?, lexeme.isCalm = true

theorem item_plain {char : Char} {item : Item} (isItem : (Atom.plain char).item? = some item) :
    isReserved char = false ∧ plainItem {} char = item := by
  have isItem : (if isReserved char then none else some (plainItem {} char)) = some item := isItem
  split at isItem
  · cases isItem
  · rename_i free
    exact ⟨Bool.eq_false_iff.mpr free, Option.some.inj isItem⟩

theorem item_set {inside : List Lexeme} {item : Item} (isItem : (Atom.set inside).item? = some item) :
    inside.all Lexeme.isAlone = true ∧ ∃ found outside,
      readSet inside = .ok (found, outside, []) ∧ setItem {} found outside = item := by
  unfold Atom.item? at isItem
  dsimp only at isItem
  split at isItem
  · rename_i alone
    split at isItem
    · rename_i found outside isRead
      exact ⟨alone, found, outside, isRead, Option.some.inj isItem⟩
    · cases isItem
  · cases isItem

/-- A character that is not reserved is none of the signs that reading looks for. -/
theorem ne_of_not_reserved {char : Char} (free : isReserved char = false) :
    char ≠ '(' ∧ char ≠ ')' ∧ char ≠ '[' ∧ char ≠ '|' ∧ char ≠ '*' ∧ char ≠ '+' ∧ char ≠ '?' ∧
      char ≠ '{' ∧ char ≠ '\\' := by
  simpa [isReserved] using free

theorem calm_atom {atom : Atom} {item : Item} (isItem : atom.item? = some item) (rest : List Lexeme) :
    Calm (atom.spell ++ rest) := by
  intro lexeme head
  cases atom with
  | plain char =>
    obtain rfl : Lexeme.plain char = lexeme := Option.some.inj head
    obtain ⟨-, -, -, -, star, plus, optional, brace, -⟩ := ne_of_not_reserved (item_plain isItem).1
    simp [Lexeme.isCalm, star, plus, optional, brace]
  | escape char =>
    obtain rfl : Lexeme.escape char = lexeme := Option.some.inj head
    rfl
  | set inside =>
    obtain rfl : Lexeme.plain '[' = lexeme := Option.some.inj head
    rfl

/-! ### Escapes and sets -/

variable {fuel : Nat} {items : List Item} {ledger : Ledger} {rest : List Lexeme}

/-- An escaped character that is no letter and no digit stands for itself, wherever it stands. -/
theorem escape_of_not_alphanum {char : Char} (foreign : char.isAlphanum = false) :
    anchor? {} char = none ∧ kindItem? char = none ∧ hexDigits? char = none ∧
      (∀ code, controlCode? char = some code → code = char.toNat) ∧ char.isDigit = false ∧
        isOctal char = false ∧ ∀ other, other.isAlphanum = true → char ≠ other := by
  have other (other : Char) (alphanum : other.isAlphanum = true) : char ≠ other := by
    rintro rfl
    rw [foreign] at alphanum
    cases alphanum
  have digit : char.isDigit = false := (Bool.or_eq_false_iff.mp foreign).2
  refine ⟨?_, ?_, ?_, ?_, digit, ?_, other⟩
  · unfold anchor?
    split <;> first | rfl | exact absurd rfl (other _ rfl)
  · unfold kindItem?
    split <;> first | rfl | exact absurd rfl (other _ rfl)
  · unfold hexDigits?
    split <;> first | rfl | exact absurd rfl (other _ rfl)
  · intro code isCode
    unfold controlCode? at isCode
    split at isCode <;> first | exact absurd rfl (other _ rfl) | cases isCode
    rfl
  · cases octal : isOctal char with
    | false => rfl
    | true =>
      obtain ⟨low, high⟩ : '0' ≤ char ∧ char ≤ '7' := by simpa [isOctal] using octal
      have isDigit : char.isDigit = true := by
        simp only [Char.isDigit, Bool.and_eq_true, decide_eq_true_eq]
        exact ⟨low, Char.le_trans high (by decide : '7' ≤ '9')⟩
      rw [digit] at isDigit
      cases isDigit

theorem readItself_of_not_alphanum {char : Char} (foreign : char.isAlphanum = false)
    (rest : List Lexeme) : readItself char rest = .ok (char.toNat, rest) := by
  obtain ⟨-, -, -, -, -, -, other⟩ := escape_of_not_alphanum foreign
  simp [readItself, other 'N' rfl, foreign]

theorem readSetItem_alone {lexeme : Lexeme} (alone : lexeme.isAlone = true) :
    ∃ item, ∀ rest, readSetItem lexeme rest = .ok (item, rest) := by
  cases lexeme with
  | plain char => exact ⟨.one char.toNat, fun _ => rfl⟩
  | escape char =>
    have alone : ((kindItem? char).isSome || !char.isAlphanum) = true := alone
    cases kind : kindItem? char with
    | some item => exact ⟨item, fun rest => by rw [readSetItem, readSetEscape, kind]⟩
    | none =>
      rw [kind, Option.isSome_none, Bool.false_or, Bool.not_eq_true'] at alone
      obtain ⟨-, -, hex, control, -, octal, other⟩ := escape_of_not_alphanum alone
      refine ⟨.one char.toNat, fun rest => ?_⟩
      simp only [readSetItem, readSetEscape, kind, hex]
      cases isCode : controlCode? char with
      | some code => rw [control code isCode]
      | none =>
        simp only [other 'b' rfl, octal, readItself_of_not_alphanum alone]
        rfl
  | named name char => cases alone
  | dangling => cases alone

section SetItems

variable {set : List SetItem} {item last : SetItem} {lexeme other : Lexeme}

/-- A set goes on behind an item that no hyphen follows. -/
theorem readSetItems_item (goesOn : (lexeme = .plain ']' && !set.isEmpty) = false)
    (isItem : readSetItem lexeme rest = .ok (item, rest)) (noHyphen : rest.head? ≠ some (.plain '-')) :
    readSetItems (fuel + 1) set (lexeme :: rest) = readSetItems fuel (item :: set) rest := by
  rw [readSetItems, goesOn, isItem]
  dsimp only [bind, Except.bind]
  cases rest with
  | nil => rfl
  | cons first rest =>
    have noHyphen : first ≠ .plain '-' := fun same => noHyphen (congrArg some same)
    simp only [Bool.false_eq_true, if_false]
    split
    · rename_i same
      exact absurd (List.cons.inj same).1 noHyphen
    · rename_i same
      exact absurd (List.cons.inj same).1 noHyphen
    · rename_i same
      exact absurd (List.cons.inj same).1 noHyphen
    · rfl

/-- A hyphen before the closing bracket stands for itself. -/
theorem readSetItems_hyphen (goesOn : (lexeme = .plain ']' && !set.isEmpty) = false)
    (isItem : ∀ rest, readSetItem lexeme rest = .ok (item, rest)) :
    readSetItems (fuel + 1) set (lexeme :: .plain '-' :: .plain ']' :: rest) =
      .ok ((.one 45 :: item :: set).reverse, rest) := by
  rw [readSetItems, goesOn, isItem]
  rfl

/-- A hyphen between two items makes a range of them. -/
theorem readSetItems_range (goesOn : (lexeme = .plain ']' && !set.isEmpty) = false)
    (isItem : ∀ rest, readSetItem lexeme rest = .ok (item, rest)) (notClosing : other ≠ .plain ']')
    (isLast : readSetItem other rest = .ok (last, rest)) :
    readSetItems (fuel + 1) set (lexeme :: .plain '-' :: other :: rest) =
      rangeItem item last >>= fun range => readSetItems fuel (range :: set) rest := by
  rw [readSetItems, goesOn, isItem]
  dsimp only [bind, Except.bind]
  simp only [Bool.false_eq_true, if_false, isLast]

end SetItems

/-- A set is read alike whatever follows it. -/
theorem readSetItems_append {set found : List SetItem} {inside left : List Lexeme}
    (alone : ∀ lexeme ∈ inside, lexeme.isAlone = true)
    (isRead : readSetItems fuel set inside = .ok (found, left)) (extra : Nat) (rest : List Lexeme) :
    readSetItems (fuel + extra) set (inside ++ rest) = .ok (found, left ++ rest) := by
  induction fuel generalizing set inside with
  | zero => cases isRead
  | succ fuel ih =>
    cases inside with
    | nil => cases isRead
    | cons lexeme inside =>
      have before := fun other member => alone other (List.mem_cons_of_mem lexeme member)
      obtain ⟨item, isItem⟩ := readSetItem_alone (alone lexeme List.mem_cons_self)
      rw [Nat.succ_add]
      cases goesOn : lexeme = .plain ']' && !set.isEmpty with
      | true =>
        rw [readSetItems, goesOn] at isRead
        obtain ⟨rfl, rfl⟩ := Prod.mk.inj (Except.ok.inj isRead)
        rw [List.cons_append, readSetItems, goesOn]
        rfl
      | false =>
        rw [List.cons_append]
        by_cases hyphen : inside.head? = some (.plain '-')
        · cases inside with
          | nil => cases hyphen
          | cons first inside =>
            obtain rfl : first = .plain '-' := Option.some.inj hyphen
            cases inside with
            | nil =>
              rw [readSetItems, goesOn, isItem] at isRead
              cases isRead
            | cons other after =>
              by_cases closing : other = .plain ']'
              · subst closing
                rw [readSetItems_hyphen goesOn isItem] at isRead
                obtain ⟨rfl, rfl⟩ := Prod.mk.inj (Except.ok.inj isRead)
                exact readSetItems_hyphen goesOn isItem
              · obtain ⟨last, isLast⟩ := readSetItem_alone (before other (by simp))
                rw [readSetItems_range goesOn isItem closing (isLast _)] at isRead
                rw [List.cons_append, List.cons_append,
                  readSetItems_range goesOn isItem closing (isLast _)]
                cases isRange : rangeItem item last with
                | error flaw =>
                  rw [isRange] at isRead
                  cases isRead
                | ok range =>
                  rw [isRange] at isRead
                  exact ih (fun lexeme member => before lexeme (by simp [member])) isRead
        · rw [readSetItems_item goesOn (isItem _) hyphen] at isRead
          cases inside with
          | nil => cases fuel <;> cases isRead
          | cons first inside =>
            rw [readSetItems_item goesOn (isItem (first :: inside ++ rest)) hyphen]
            exact ih before isRead

theorem itemsOf_append {inside left : List Lexeme} {found : List SetItem} {outside turned : Bool}
    (alone : ∀ lexeme ∈ inside, lexeme.isAlone = true)
    (isRead : (do
      let (items, left) ← readSetItems (inside.length + 1) [] inside
      return (items, outside, left)) = Except.ok (found, turned, left)) (rest : List Lexeme) :
    (do
      let (items, left) ← readSetItems ((inside ++ rest).length + 1) [] (inside ++ rest)
      return (items, outside, left)) = Except.ok (found, turned, left ++ rest) := by
  cases items : readSetItems (inside.length + 1) [] inside with
  | error flaw =>
    rw [items] at isRead
    cases isRead
  | ok result =>
    rw [items] at isRead
    obtain ⟨rfl, same⟩ := Prod.mk.inj (Except.ok.inj isRead)
    obtain ⟨rfl, rfl⟩ := Prod.mk.inj same
    have longer : (inside ++ rest).length + 1 = inside.length + 1 + rest.length := by
      rw [List.length_append]
      omega
    rw [longer, readSetItems_append alone items]
    rfl

theorem readSet_append {inside left : List Lexeme} {found : List SetItem} {outside : Bool}
    (alone : ∀ lexeme ∈ inside, lexeme.isAlone = true)
    (isRead : readSet inside = .ok (found, outside, left)) (rest : List Lexeme) :
    readSet (inside ++ rest) = .ok (found, outside, left ++ rest) := by
  cases inside with
  | nil => cases isRead
  | cons first inside =>
    rw [List.cons_append]
    unfold readSet at isRead ⊢
    split at isRead
    · rename_i after same
      obtain ⟨rfl, rfl⟩ := List.cons.inj same
      exact itemsOf_append (fun other member => alone other (List.mem_cons_of_mem _ member)) isRead rest
    · rename_i other
      split
      · rename_i after same
        exact absurd (congrArg (· :: inside) (List.cons.inj same).1) (other inside)
      · exact itemsOf_append alone isRead rest

/-- An escape of one lexeme is read alone. -/
theorem readEscape_of_item {char : Char} {item : Item} (isItem : (Atom.escape char).item? = some item)
    (rest : List Lexeme) : readEscape ⟨{}, none⟩ ledger char rest = .ok (item, rest) := by
  unfold Atom.item? at isItem
  unfold readEscape
  dsimp only at isItem ⊢
  cases isAnchor : anchor? {} char with
  | some anchor =>
    rw [isAnchor] at isItem
    rw [← Option.some.inj isItem]
  | none =>
    cases isKind : kindItem? char with
    | some kind =>
      rw [isAnchor, isKind] at isItem
      rw [← Option.some.inj isItem]
    | none =>
      rw [isAnchor, isKind] at isItem
      dsimp only at isItem
      split at isItem
      · cases isItem
      · rename_i foreign
        have foreign := Bool.eq_false_iff.mpr foreign
        obtain ⟨-, -, hex, control, digit, -, other⟩ := escape_of_not_alphanum foreign
        rw [← Option.some.inj isItem]
        cases isCode : controlCode? char with
        | some code => rw [control code isCode]
        | none =>
          simp only [hex, other '0' rfl, digit, readItself_of_not_alphanum foreign]
          rfl

/-! ### Atoms -/

theorem Atom.length_spell_pos (atom : Atom) : 0 < atom.spell.length := by
  cases atom <;> exact Nat.succ_pos _

/-- An atom is read alone. -/
theorem readRow_atom {atom : Atom} {item : Item} (isItem : atom.item? = some item)
    (stands : ledger.rest = atom.spell ++ rest) :
    readRow (fuel + 1) ⟨{}, none⟩ items ledger =
      readRow fuel ⟨{}, none⟩ (item :: items) { ledger with rest } := by
  obtain ⟨_, widths, names, conditions, varies⟩ := ledger
  dsimp only at stands
  subst stands
  cases atom with
  | plain char =>
    obtain ⟨free, rfl⟩ := item_plain isItem
    obtain ⟨opens, closes, set, bar, star, plus, optional, brace, -⟩ := ne_of_not_reserved free
    simp [readRow, Atom.spell, opens, closes, set, bar, star, plus, optional, brace]
  | escape char =>
    rw [readRow]
    show (readEscape _ _ _ _ >>= _) = _
    rw [readEscape_of_item isItem]
    rfl
  | set inside =>
    obtain ⟨alone, found, outside, isRead, rfl⟩ := item_set isItem
    have whole := readSet_append (List.all_eq_true.mp alone) isRead rest
    rw [List.nil_append] at whole
    rw [readRow]
    show (readSet (inside ++ rest) >>= _) = _
    rw [whole]
    rfl

/-! ### Quantifiers -/

theorem takePlain_stop {test : Char → Bool} {digits : Text} (passes : ∀ char ∈ digits, test char = true)
    {stop : Char} (fails : test stop = false) {count : Nat} (enough : digits.length < count)
    (rest : List Lexeme) : takePlain test count (digits.map .plain ++ .plain stop :: rest) =
      (digits, .plain stop :: rest) := by
  induction digits generalizing count with
  | nil =>
    cases count with
    | zero => cases enough
    | succ count => simp [takePlain, fails]
  | cons char digits ih =>
    cases count with
    | zero => cases enough
    | succ count =>
      rw [List.map_cons, List.cons_append, takePlain, if_pos (passes char List.mem_cons_self),
        ih (fun other member => passes other (List.mem_cons_of_mem _ member))
          (Nat.lt_of_succ_lt_succ enough)]

theorem Bounds.rounds?_braces {least : Text} {most : Option Text} {rounds : Nat × Option Nat}
    (isRounds : (Bounds.braces least most).rounds? = some rounds) :
    least.all Char.isDigit = true ∧ (most.getD []).all Char.isDigit = true ∧
      (most.isSome || !least.isEmpty) = true ∧
      readRounds least (most.getD least) [] = .ok rounds := by
  unfold Bounds.rounds? at isRounds
  dsimp only at isRounds
  split at isRounds
  · rename_i fine
    obtain ⟨both, given⟩ := Bool.and_eq_true_iff.mp fine
    obtain ⟨digits, more⟩ := Bool.and_eq_true_iff.mp both
    refine ⟨digits, more, given, ?_⟩
    cases isRead : readRounds least (most.getD least) [] with
    | error flaw =>
      rw [isRead] at isRounds
      cases isRounds
    | ok found =>
      rw [isRead] at isRounds
      exact congrArg Except.ok (Option.some.inj isRounds)
  · cases isRounds

/-- Numerals between braces are read as bounds. -/
theorem readBounds?_braces {least : Text} {most : Option Text}
    (digits : least.all Char.isDigit = true) (more : (most.getD []).all Char.isDigit = true)
    (given : (most.isSome || !least.isEmpty) = true) (rest : List Lexeme) :
    readBounds? ((least ++ (most.map (',' :: ·)).getD [] ++ ['}']).map .plain ++ rest) =
      some (least, most.getD least, rest) := by
  have digits := List.all_eq_true.mp digits
  have more := List.all_eq_true.mp more
  cases most with
  | none =>
    have split : (least ++ ((none : Option Text).map (',' :: ·)).getD [] ++ ['}']).map Lexeme.plain ++
        rest = least.map .plain ++ .plain '}' :: rest := by
      simp
    have nonempty : least.isEmpty = false := by simpa using given
    rw [split, readBounds?, takePlain_stop digits rfl (by simp)]
    simp [nonempty]
  | some most =>
    have split : (least ++ ((some most).map (',' :: ·)).getD [] ++ ['}']).map Lexeme.plain ++ rest =
        least.map .plain ++ .plain ',' :: (most.map .plain ++ .plain '}' :: rest) := by
      simp
    have second : takePlain Char.isDigit (most.map Lexeme.plain ++ .plain '}' :: rest).length
        (most.map .plain ++ .plain '}' :: rest) = (most, .plain '}' :: rest) :=
      takePlain_stop more rfl (by simp) rest
    rw [split, readBounds?, takePlain_stop digits rfl (by simp)]
    simp only [second, Option.getD_some]

theorem readAppetite_calm (calm : Calm rest) (isLazy : Bool) :
    readAppetite ((if isLazy then [.plain '?'] else []) ++ rest) =
      (if isLazy then .lazy else .greedy, rest) := by
  cases isLazy with
  | true => rfl
  | false =>
    show readAppetite rest = (.greedy, rest)
    unfold readAppetite
    split
    · cases calm _ rfl
    · cases calm _ rfl
    · rfl

theorem readRounds_calm (calm : Calm rest) (isLazy : Bool) (least most : Text) :
    readRounds least most ((if isLazy then [.plain '?'] else []) ++ rest) =
      readRounds least most [] := by
  have other : (if isLazy then [.plain '?'] else []) ++ rest ≠ [.dangling] := by
    intro dangling
    cases isLazy with
    | true => cases dangling
    | false =>
      rw [show rest = [.dangling] from dangling] at calm
      cases calm _ rfl
  rw [readRounds, if_neg other, readRounds, if_neg nofun]

/-- A quantifier is read alone where what follows leaves it alone. -/
theorem readRow_count {count : Count} (node : Node) (isCount : count.bounds.rounds?.isSome = true)
    (stands : ledger.rest = count.spell ++ rest) (calm : Calm rest) :
    readRow (fuel + 1) ⟨{}, none⟩ (⟨node, .repeatable⟩ :: items) ledger =
      readRow fuel ⟨{}, none⟩ (⟨count.loop node, .repeated⟩ :: items) { ledger with rest } := by
  obtain ⟨bounds, isLazy⟩ := count
  obtain ⟨⟨least, most⟩, isRounds⟩ := Option.isSome_iff_exists.mp isCount
  have looped : loopItem least most ((if isLazy then [.plain '?'] else []) ++ rest)
      (⟨node, .repeatable⟩ :: items) =
      .ok (⟨(Count.mk bounds isLazy).loop node, .repeated⟩ :: items, rest) := by
    rw [loopItem, readAppetite_calm calm, Count.loop, isRounds]
    rfl
  have others := readRounds_calm calm isLazy
  rw [Count.spell, List.append_assoc] at stands
  dsimp only at isRounds stands
  generalize (if isLazy then [Lexeme.plain '?'] else []) ++ rest = behind at looped others stands
  cases bounds with
  | any =>
    obtain ⟨rfl, rfl⟩ := Prod.mk.inj (Option.some.inj isRounds)
    rw [readRow, stands]
    show (loopItem 0 none behind _ >>= _) = _
    rw [looped]
    rfl
  | several =>
    obtain ⟨rfl, rfl⟩ := Prod.mk.inj (Option.some.inj isRounds)
    rw [readRow, stands]
    show (loopItem 1 none behind _ >>= _) = _
    rw [looped]
    rfl
  | optional =>
    obtain ⟨rfl, rfl⟩ := Prod.mk.inj (Option.some.inj isRounds)
    rw [readRow, stands]
    show (loopItem 0 (some 1) behind _ >>= _) = _
    rw [looped]
    rfl
  | braces low high =>
    obtain ⟨digits, more, given, isRead⟩ := Bounds.rounds?_braces isRounds
    rw [readRow, stands]
    dsimp only [Bounds.spell, List.cons_append]
    rw [readBounds?_braces digits more given]
    dsimp only
    rw [others, isRead]
    dsimp only [bind, Except.bind]
    rw [looped]
    rfl

theorem Count.length_spell_pos (count : Count) : 0 < count.spell.length := by
  rw [Count.spell, List.length_append]
  have bounds : 0 < count.bounds.spell.length := by
    cases count.bounds <;> exact Nat.succ_pos _
  omega

end GrokEvents.Expr
