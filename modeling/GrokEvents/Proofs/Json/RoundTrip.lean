/-
**Printed documents are read back.**

A document without real numbers, in which no object gives a name twice, is read back from what is
printed of it: the same value, with all members in their order. What may follow a value inside a
document, a comma or a line break, extends no number, so that each value ends where it was printed
to end.

* `ReadBack`: a value is read back at every level and in front of whatever may follow it.
* `readItems?_printed`, `readMembers?_printed`: the items of an array, the members of an object.
* `read?_print`: a document is read back.
-/

import Mathlib.Data.List.TakeWhile
import GrokEvents.Proofs.Entries
import GrokEvents.Proofs.Json.Quotation

namespace GrokEvents.Json

/-! ### Values and what follows them -/

/-- A value without real numbers, in which no object gives a name twice. -/
inductive Exact : Json → Prop
  | null : Exact .null
  | bool (value : Bool) : Exact (.bool value)
  | int (value : Int) : Exact (.int value)
  | text (value : Text) : Exact (.text value)
  | array {items : List Json} (each : ∀ item ∈ items, Exact item) : Exact (.array items)
  | object {members : List (Text × Json)} (distinct : (Entries.keys members).Nodup)
      (each : ∀ member ∈ members, Exact member.2) : Exact (.object members)

/-- What may come behind a value: nothing, a comma or a line break. -/
inductive MayFollow : Text → Prop
  | nothing : MayFollow []
  | comma (rest : Text) : MayFollow (',' :: rest)
  | lineBreak (rest : Text) : MayFollow ('\n' :: rest)

/-- A character that neither is white space nor closes an array or object. -/
def startsValue (char : Char) : Bool :=
  !([' ', '\n', '\r', '\t', ']', '}'].contains char)

/-- A character that starts a value, and neither a text nor an array or object. -/
def startsPlain (char : Char) : Bool :=
  startsValue char && !(['"', '[', '{'].contains char)

theorem mayFollow_newline (level : Nat) (rest : Text) : MayFollow (newline level ++ rest) :=
  .lineBreak _

theorem skipSpace_of_startsValue {char : Char} (starts : startsValue char = true) (rest : Text) :
    skipSpace (char :: rest) = char :: rest := by
  apply List.dropWhile_cons_of_neg
  simp only [startsValue, List.contains_cons] at starts
  simp_all

theorem skipSpace_newline (level : Nat) (rest : Text) :
    skipSpace (newline level ++ rest) = skipSpace rest := by
  apply List.dropWhile_append_of_pos
  intro char member
  rcases List.mem_cons.mp member with rfl | space
  · rfl
  · rw [List.eq_of_mem_replicate space]
    rfl

theorem skipSpace_newline_cons (level : Nat) {char : Char} (starts : char = ']' ∨ char = '}')
    (rest : Text) : skipSpace (newline level ++ char :: rest) = char :: rest := by
  rw [skipSpace_newline]
  rcases starts with rfl | rfl <;> rfl

/-! ### Numbers -/

theorem run_isDigit_append {digits rest : Text} (digit : ∀ char ∈ digits, char.isDigit = true)
    (follows : MayFollow rest) : Text.run Char.isDigit (digits ++ rest) = (digits, rest) := by
  cases follows with
  | nothing =>
    rw [List.append_nil, Text.run, List.takeWhile_eq_self_iff.mpr digit,
      List.dropWhile_eq_nil_iff.mpr digit]
  | comma rest => exact Text.run_of_stop digit rfl rest
  | lineBreak rest => exact Text.run_of_stop digit rfl rest

theorem readWhole_ofNat (number : Nat) {rest : Text} (follows : MayFollow rest) :
    readWhole (Text.ofNat number ++ rest) = (Text.ofNat number, rest) := by
  by_cases zero : number = 0
  · subst zero
    rfl
  · have digit : ∀ char ∈ Text.ofNat number, char.isDigit = true := fun _ => Text.isDigit_of_mem_ofNat
    have digits := run_isDigit_append digit follows
    have first := Text.head?_toDigits_ne_zero zero
    obtain ⟨digit, more, split, -⟩ := Text.exists_ofNat number
    rw [← Text.ofNat, split] at first
    rw [split, List.cons_append] at digits ⊢
    rw [readWhole]
    · exact digits
    · intro other same
      exact first (congrArg some (List.cons.inj same).1)

theorem readUnsigned?_ofNat (negative : Bool) (number : Nat) {rest : Text} (follows : MayFollow rest) :
    readUnsigned? negative (Text.ofNat number ++ rest) =
      some (.int (if negative then -number else number), rest) := by
  have places : readPlaces rest = (none, rest) := by
    cases follows <;> rfl
  have exponent : readExponent rest = (none, rest) := by
    cases follows <;> rfl
  obtain ⟨digit, more, split, -⟩ := Text.exists_ofNat number
  have whole := readWhole_ofNat number follows
  have value := Text.toNat_ofNat number
  rw [split] at whole value ⊢
  rw [readUnsigned?, whole]
  dsimp only
  rw [places]
  dsimp only
  rw [exponent]
  dsimp only
  rw [value]
  rfl

theorem readNumber?_ofInt (value : Int) {rest : Text} (follows : MayFollow rest) :
    readNumber? (Text.ofInt value ++ rest) = some (.int value, rest) := by
  have number (negative : Bool) := readUnsigned?_ofNat negative value.natAbs follows
  rw [Text.ofInt_eq]
  by_cases negative : value < 0
  · have size : -(value.natAbs : Int) = value := by omega
    rw [if_pos negative, List.append_assoc]
    exact (number true).trans (by rw [if_pos rfl, size])
  · have size : (value.natAbs : Int) = value := by omega
    rw [if_neg negative, List.nil_append, readNumber?]
    · exact (number false).trans (by rw [size]; rfl)
    · rintro more same
      obtain ⟨digit, others, split, isDigit⟩ := Text.exists_ofNat value.natAbs
      rw [split] at same
      rw [(List.cons.inj same).1] at isDigit
      cases isDigit

/-! ### Words and first characters -/

theorem startsPlain_of_isDigit {char : Char} (digit : char.isDigit = true) :
    startsPlain char = true := by
  have other (mark : Char) (noDigit : mark.isDigit = false) : ¬ char = mark :=
    Text.ne_of_isDigit digit noDigit
  simp only [startsPlain, startsValue, List.contains_cons, List.contains_nil, Bool.or_false,
    Bool.and_eq_true, Bool.not_eq_true', Bool.or_eq_false_iff, beq_eq_false_iff_ne]
  exact ⟨⟨other _ rfl, other _ rfl, other _ rfl, other _ rfl, other _ rfl, other _ rfl⟩,
    other _ rfl, other _ rfl, other _ rfl⟩

/-- A value that starts with neither a quote, a bracket nor a brace is a word or a number. -/
theorem readValue?_of_plain {char : Char} (plain : startsPlain char = true) (fuel : Nat) (rest : Text) :
    readValue? (fuel + 1) (char :: rest) =
      (readWord? (char :: rest)).or (readNumber? (char :: rest)) := by
  obtain ⟨starts, other⟩ := Bool.and_eq_true_iff.mp plain
  rw [readValue?, skipSpace_of_startsValue starts]
  split
  · rename_i same
    rw [(List.cons.inj same).1] at other
    cases other
  · rename_i same
    rw [(List.cons.inj same).1] at other
    cases other
  · rename_i same
    rw [(List.cons.inj same).1] at other
    cases other
  · rfl

/-- No word starts with a digit, with or without a sign before it. -/
theorem readWord?_of_isDigit {digit : Char} (isDigit : digit.isDigit = true) (rest : Text) :
    readWord? (digit :: rest) = none ∧ readWord? ('-' :: digit :: rest) = none := by
  have differs (letter : Char) (noDigit : letter.isDigit = false) : (letter == digit) = false :=
    beq_eq_false_iff_ne.mpr (Text.ne_of_isDigit isDigit noDigit).symm
  have n := differs 'n' rfl
  have t := differs 't' rfl
  have f := differs 'f' rfl
  have capitalN := differs 'N' rfl
  have capitalI := differs 'I' rfl
  have minus := differs '-' rfl
  constructor <;> simp [readWord?, words, List.isPrefixOf?, n, t, f, capitalN, capitalI, minus]

/-- An integer starts like a number, and no word starts like it. -/
theorem exists_ofInt (value : Int) : ∃ char more, Text.ofInt value = char :: more ∧
    startsPlain char = true ∧ ∀ rest, readWord? (Text.ofInt value ++ rest) = none := by
  obtain ⟨digit, more, split, isDigit⟩ := Text.exists_ofNat value.natAbs
  rw [Text.ofInt_eq, split]
  split
  · exact ⟨'-', digit :: more, rfl, rfl, fun rest => (readWord?_of_isDigit isDigit _).2⟩
  · exact ⟨digit, more, rfl, startsPlain_of_isDigit isDigit,
      fun rest => (readWord?_of_isDigit isDigit _).1⟩

/-- What is printed of a value starts with a character that starts values. -/
theorem exists_start {value : Json} (exact : Exact value) (level : Nat) :
    ∃ char rest, printAt level value = char :: rest ∧ startsValue char = true := by
  cases exact with
  | null => exact ⟨'n', _, by rw [printAt]; rfl, rfl⟩
  | bool value =>
    cases value with
    | false => exact ⟨'f', _, by rw [printAt]; rfl, rfl⟩
    | true => exact ⟨'t', _, by rw [printAt]; rfl, rfl⟩
  | int value =>
    obtain ⟨char, more, split, plain, -⟩ := exists_ofInt value
    exact ⟨char, more, by rw [printAt, split], (Bool.and_eq_true_iff.mp plain).1⟩
  | text value => exact ⟨'"', _, by rw [printAt, printText]; rfl, rfl⟩
  | @array items each =>
    cases items with
    | nil => exact ⟨'[', _, by rw [printAt], rfl⟩
    | cons first items => exact ⟨'[', _, by rw [printAt]; rfl, rfl⟩
  | @object members distinct each =>
    cases members with
    | nil => exact ⟨'{', _, by rw [printAt], rfl⟩
    | cons first members => exact ⟨'{', _, by rw [printAt]; rfl, rfl⟩

/-! ### Values that are read back -/

/-- What is printed of a value is read as the value, at every level and in front of whatever may
follow it. Two steps for each character printed are enough. -/
def ReadBack (value : Json) : Prop :=
  ∀ level fuel rest, 2 * (printAt level value).length ≤ fuel → MayFollow rest →
    readValue? fuel (printAt level value ++ rest) = some (value, rest)

/-- Some step is left for a value that is printed with some character. -/
theorem exists_fuel {text : Text} {char : Char} {rest : Text} {fuel : Nat} (split : text = char :: rest)
    (enough : 2 * text.length ≤ fuel) : ∃ less, fuel = less + 1 ∧ 2 * rest.length < less + 1 := by
  rw [split, List.length_cons] at enough
  exact ⟨fuel - 1, by omega, by omega⟩

/-- A value that is printed as a word or number, the same at every level, is read back as one. -/
theorem readBack_of_plain {value : Json} {char : Char} {more : Text}
    (printed : ∀ level, printAt level value = char :: more) (plain : startsPlain char = true)
    (isRead : ∀ rest, MayFollow rest →
      (readWord? (char :: (more ++ rest))).or (readNumber? (char :: (more ++ rest))) =
        some (value, rest)) : ReadBack value := by
  intro level fuel rest enough follows
  obtain ⟨less, rfl, -⟩ := exists_fuel (printed level) enough
  rw [printed, List.cons_append, readValue?_of_plain plain]
  exact isRead rest follows

theorem readBack_null : ReadBack .null :=
  readBack_of_plain (fun level => by rw [printAt]; rfl) rfl fun _ _ => rfl

theorem readBack_bool (value : Bool) : ReadBack (.bool value) := by
  cases value with
  | false => exact readBack_of_plain (fun level => by rw [printAt]; rfl) rfl fun _ _ => rfl
  | true => exact readBack_of_plain (fun level => by rw [printAt]; rfl) rfl fun _ _ => rfl

theorem readBack_int (value : Int) : ReadBack (.int value) := by
  obtain ⟨char, more, split, plain, noWord⟩ := exists_ofInt value
  refine readBack_of_plain (fun level => by rw [printAt, split]) plain fun rest follows => ?_
  rw [← List.cons_append, ← split, noWord, Option.none_or, readNumber?_ofInt value follows]

theorem printText_append (text rest : Text) :
    printText text ++ rest = '"' :: (text.flatMap escapedChar ++ '"' :: rest) := by
  rw [printText]
  simp only [List.cons_append, List.append_assoc, List.nil_append]

theorem readBack_text (value : Text) : ReadBack (.text value) := by
  intro level fuel rest enough follows
  obtain ⟨less, rfl, -⟩ := exists_fuel (by rw [printAt, printText]; rfl) enough
  rw [printAt, printText_append, readValue?]
  show (readText? none (value.flatMap escapedChar ++ '"' :: rest)).map _ = _
  rw [readText?_printed]
  rfl

/-! ### White space before a value -/

theorem readValue?_congr {first second : Text} (same : skipSpace first = skipSpace second)
    (fuel : Nat) :
    readValue? fuel first = readValue? fuel second := by
  cases fuel with
  | zero => rfl
  | succ fuel => rw [readValue?, readValue?, same]

theorem readValue?_space (fuel : Nat) (text : Text) :
    readValue? fuel (' ' :: text) = readValue? fuel text :=
  have same : skipSpace (' ' :: text) = skipSpace text := rfl
  readValue?_congr same fuel

theorem readItems?_congr {first second : Text} (same : skipSpace first = skipSpace second)
    (fuel : Nat) :
    readItems? fuel first = readItems? fuel second := by
  cases fuel with
  | zero => rfl
  | succ fuel => rw [readItems?, readItems?, readValue?_congr same]

theorem readMembers?_congr {first second : Text} (same : skipSpace first = skipSpace second)
    (fuel : Nat) : readMembers? fuel first = readMembers? fuel second := by
  cases fuel with
  | zero => rfl
  | succ fuel => rw [readMembers?, readMembers?, same]

/-! ### Arrays -/

/-- The last item of an array is followed by its closing bracket. -/
theorem readItems?_last {fuel : Nat} {source rest left : Text} {item : Json}
    (value : readValue? fuel source = some (item, rest)) (closes : skipSpace rest = ']' :: left) :
    readItems? (fuel + 1) source = some ([item], left) := by
  rw [readItems?, value]
  simp only [Option.bind_eq_bind, Option.bind_some, closes]
  rfl

/-- An item that is followed by a comma stands in front of other items. -/
theorem readItems?_more {fuel : Nat} {source rest next : Text} {item : Json}
    (value : readValue? fuel source = some (item, rest)) (continues : skipSpace rest = ',' :: next) :
    readItems? (fuel + 1) source =
      (readItems? fuel next).map fun (items, left) => (item :: items, left) := by
  rw [readItems?, value]
  simp only [Option.bind_eq_bind, Option.bind_some, continues]
  cases readItems? fuel next <;> rfl

theorem mayFollow_items (level outer : Nat) (items : List Json) (rest : Text) :
    MayFollow (printItems level items ++ (newline outer ++ rest)) := by
  cases items with
  | nil => exact mayFollow_newline outer rest
  | cons item items =>
    rw [printItems]
    exact .comma _

/-- The items of an array are read back up to its closing bracket. The induction is on the items
after the first. -/
theorem readItems?_printed {first : Json} {items : List Json}
    (each : ∀ item ∈ first :: items, ReadBack item) (level outer fuel : Nat) (rest : Text)
    (enough : 2 * ((printAt level first).length + (printItems level items).length) < fuel) :
    readItems? fuel (printAt level first ++
        (printItems level items ++ (newline outer ++ ']' :: rest))) = some (first :: items, rest) := by
  induction items generalizing first fuel with
  | nil =>
    obtain ⟨less, rfl⟩ : ∃ less, fuel = less + 1 := ⟨fuel - 1, by omega⟩
    have value := each first List.mem_cons_self level less _ (by omega)
      (mayFollow_items level outer [] (']' :: rest))
    refine readItems?_last value ?_
    rw [printItems]
    exact skipSpace_newline_cons outer (.inl rfl) rest
  | cons item items ih =>
    obtain ⟨less, rfl⟩ : ∃ less, fuel = less + 1 := ⟨fuel - 1, by omega⟩
    have value := each first List.mem_cons_self level less _ (by omega)
      (mayFollow_items level outer (item :: items) (']' :: rest))
    have others := ih (fun other member => each other (List.mem_cons_of_mem _ member)) less
      (by simp only [printItems, List.length_append, List.length_cons] at enough; omega)
    have continues : skipSpace (printItems level (item :: items) ++ (newline outer ++ ']' :: rest)) =
        ',' :: (newline level ++ (printAt level item ++
          (printItems level items ++ (newline outer ++ ']' :: rest)))) := by
      rw [printItems]
      simp only [List.cons_append, List.append_assoc]
      rfl
    rw [readItems?_more value continues, readItems?_congr (skipSpace_newline level _), others]
    rfl

/-- An array whose bracket a value follows is its items. -/
theorem readValue?_bracket {source text : Text} {char : Char} (inside : skipSpace source = char :: text)
    (starts : startsValue char = true) (fuel : Nat) :
    readValue? (fuel + 1) ('[' :: source) =
      (readItems? fuel source).map fun (items, left) => (.array items, left) := by
  have same : skipSpace (char :: text) = skipSpace source :=
    (skipSpace_of_startsValue starts text).trans inside.symm
  have bracket : skipSpace ('[' :: source) = '[' :: source := rfl
  rw [readValue?]
  simp only [bracket, inside]
  split
  · rename_i closes
    rw [(List.cons.inj closes).1] at starts
    cases starts
  · rw [readItems?_congr same]

theorem readBack_array {items : List Json} (exact : ∀ item ∈ items, Exact item)
    (each : ∀ item ∈ items, ReadBack item) : ReadBack (.array items) := by
  intro level fuel rest enough follows
  cases items with
  | nil =>
    obtain ⟨less, rfl, -⟩ := exists_fuel (by rw [printAt]) enough
    rw [printAt, readValue?]
    rfl
  | cons first items =>
    rw [printAt] at enough ⊢
    simp only [List.cons_append, List.append_assoc, List.nil_append] at enough ⊢
    obtain ⟨less, rfl, enough⟩ := exists_fuel rfl enough
    obtain ⟨char, text, split, starts⟩ := exists_start (exact first List.mem_cons_self) (level + 1)
    have inside : skipSpace (newline (level + 1) ++ (printAt (level + 1) first ++
        (printItems (level + 1) items ++ (newline level ++ ']' :: rest)))) =
          char :: (text ++ (printItems (level + 1) items ++ (newline level ++ ']' :: rest))) := by
      rw [skipSpace_newline, split]
      exact skipSpace_of_startsValue starts _
    have items := readItems?_printed each (level + 1) level less rest (by
      simp only [newline, List.length_append, List.length_cons] at enough
      omega)
    rw [readValue?_bracket inside starts, readItems?_congr (skipSpace_newline _ _), items]
    rfl

/-! ### Objects -/

/-- A member is its name, a colon and its value. The last one is followed by the closing brace. -/
theorem readMembers?_last {fuel : Nat} {source value rest left : Text} {name : Text} {member : Json}
    (named : readText? none source = some (name, ':' :: value))
    (holds : readValue? fuel value = some (member, rest)) (closes : skipSpace rest = '}' :: left) :
    readMembers? (fuel + 1) ('"' :: source) = some ([(name, member)], left) := by
  have colon : skipSpace (':' :: value) = ':' :: value := rfl
  have quote : skipSpace ('"' :: source) = '"' :: source := rfl
  rw [readMembers?]
  simp only [Option.bind_eq_bind, Option.bind_some, quote, named, colon, holds, closes]
  rfl

/-- A member that is followed by a comma stands in front of other members. -/
theorem readMembers?_more {fuel : Nat} {source value rest next : Text} {name : Text} {member : Json}
    (named : readText? none source = some (name, ':' :: value))
    (holds : readValue? fuel value = some (member, rest)) (continues : skipSpace rest = ',' :: next) :
    readMembers? (fuel + 1) ('"' :: source) =
      (readMembers? fuel next).map fun (members, left) => ((name, member) :: members, left) := by
  have colon : skipSpace (':' :: value) = ':' :: value := rfl
  have quote : skipSpace ('"' :: source) = '"' :: source := rfl
  rw [readMembers?]
  simp only [Option.bind_eq_bind, Option.bind_some, quote, named, colon, holds, continues]
  cases readMembers? fuel next <;> rfl

theorem mayFollow_members (level outer : Nat) (members : List (Text × Json)) (rest : Text) :
    MayFollow (printMembers level members ++ (newline outer ++ rest)) := by
  cases members with
  | nil => exact mayFollow_newline outer rest
  | cons member members =>
    rw [printMembers]
    exact .comma _

/-- The members of an object are read back up to its closing brace. The induction is on the members
after the first. -/
theorem readMembers?_printed {first : Text × Json} {members : List (Text × Json)}
    (each : ∀ member ∈ first :: members, ReadBack member.2) (level outer fuel : Nat) (rest : Text)
    (enough : 2 * ((printAt level first.2).length + (printMembers level members).length) < fuel) :
    readMembers? fuel (printText first.1 ++ ':' :: ' ' :: (printAt level first.2 ++
        (printMembers level members ++ (newline outer ++ '}' :: rest)))) =
      some (first :: members, rest) := by
  induction members generalizing first fuel with
  | nil =>
    obtain ⟨less, rfl⟩ : ∃ less, fuel = less + 1 := ⟨fuel - 1, by omega⟩
    have value := each first List.mem_cons_self level less _ (by omega)
      (mayFollow_members level outer [] ('}' :: rest))
    rw [printText_append]
    refine readMembers?_last (readText?_printed _ _) ((readValue?_space _ _).trans value) ?_
    rw [printMembers]
    exact skipSpace_newline_cons outer (.inr rfl) rest
  | cons member members ih =>
    obtain ⟨less, rfl⟩ : ∃ less, fuel = less + 1 := ⟨fuel - 1, by omega⟩
    have value := each first List.mem_cons_self level less _ (by omega)
      (mayFollow_members level outer (member :: members) ('}' :: rest))
    have others := ih (fun other later => each other (List.mem_cons_of_mem _ later)) less
      (by simp only [printMembers, List.length_append, List.length_cons] at enough; omega)
    have continues :
        skipSpace (printMembers level (member :: members) ++ (newline outer ++ '}' :: rest)) =
          ',' :: (newline level ++ (printText member.1 ++ ':' :: ' ' :: (printAt level member.2 ++
            (printMembers level members ++ (newline outer ++ '}' :: rest))))) := by
      rw [printMembers]
      simp only [List.cons_append, List.append_assoc]
      rfl
    rw [printText_append, readMembers?_more (readText?_printed _ _)
      ((readValue?_space _ _).trans value) continues, readMembers?_congr (skipSpace_newline level _),
      others]
    rfl

/-- An object whose brace a name follows is its members. -/
theorem readValue?_brace {source text : Text} (inside : skipSpace source = '"' :: text) (fuel : Nat) :
    readValue? (fuel + 1) ('{' :: source) =
      (readMembers? fuel source).map fun (members, left) =>
        (.object (Entries.ofList members), left) := by
  have same : skipSpace ('"' :: text) = skipSpace source := inside.symm
  have brace : skipSpace ('{' :: source) = '{' :: source := rfl
  rw [readValue?]
  simp only [brace, inside]
  exact congrArg (Option.map _) (readMembers?_congr same fuel)

theorem readBack_object {members : List (Text × Json)} (distinct : (Entries.keys members).Nodup)
    (each : ∀ member ∈ members, ReadBack member.2) : ReadBack (.object members) := by
  intro level fuel rest enough follows
  cases members with
  | nil =>
    obtain ⟨less, rfl, -⟩ := exists_fuel (by rw [printAt]) enough
    rw [printAt, readValue?]
    rfl
  | cons first members =>
    have table : Entries.ofList (first :: members) = first :: members :=
      Entries.extend_of_beginning List.nil_prefix distinct
    rw [printAt] at enough ⊢
    simp only [List.cons_append, List.append_assoc, List.nil_append] at enough ⊢
    obtain ⟨less, rfl, enough⟩ := exists_fuel rfl enough
    have inside (text : Text) : skipSpace (newline (level + 1) ++ (printText first.1 ++ text)) =
        '"' :: (first.1.flatMap escapedChar ++ '"' :: text) := by
      rw [skipSpace_newline, printText_append]
      rfl
    have members := readMembers?_printed each (level + 1) level less rest (by
      simp only [newline, List.length_append, List.length_cons] at enough
      omega)
    rw [readValue?_brace (inside _), readMembers?_congr (skipSpace_newline _ _), members]
    exact congrArg (fun table => some (Json.object table, rest)) table

/-! ### Documents -/

/-- Values are read back. The induction follows the value. -/
theorem readBack_of_exact {value : Json} (exact : Exact value) : ReadBack value := by
  induction exact with
  | null => exact readBack_null
  | bool value => exact readBack_bool value
  | int value => exact readBack_int value
  | text value => exact readBack_text value
  | array exact ih => exact readBack_array exact ih
  | object distinct _ ih => exact readBack_object distinct ih

/-- **A document is read back.** -/
theorem read?_print {value : Json} (exact : Exact value) : read? value.print = some value := by
  have whole := readBack_of_exact exact 0 (2 * value.print.length + 2) []
    (Nat.le_add_right _ 2) .nothing
  rw [List.append_nil, ← print] at whole
  rw [read?, whole]
  rfl

end GrokEvents.Json
