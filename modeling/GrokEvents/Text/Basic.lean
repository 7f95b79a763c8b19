/-
**Text.**

A text is its list of characters, so that scanners are recursions on the text itself.
-/

namespace GrokEvents

/-- A text, as the list of its characters. -/
abbrev Text := List Char

namespace Text

/-! ## Searching -/

/-- Replaces `part` by `new`, from the left, where `skip` more characters belong to the
occurrence replaced last. -/
def replaceFrom (part new : Text) : Nat → Text → Text
  | _, [] => []
  | skip + 1, _ :: rest => replaceFrom part new skip rest
  | 0, char :: rest =>
    if part.isPrefixOf (char :: rest) then new ++ replaceFrom part new (part.length - 1) rest
    else char :: replaceFrom part new 0 rest

/-- Replaces each occurrence of the non-empty text `part`, from the left and without overlap. -/
def replace (part new text : Text) : Text :=
  replaceFrom part new 0 text

/-! ## Cutting and joining -/

/-- The longest start of the text whose characters pass the test, and what follows it. -/
def run (test : Char → Bool) (text : Text) : Text × Text :=
  (text.takeWhile test, text.dropWhile test)

theorem run_append (test : Char → Bool) (text : Text) :
    (run test text).1 ++ (run test text).2 = text :=
  List.takeWhile_append_dropWhile

/-- A run stops at a character that fails the test. -/
theorem run_of_stop {test : Char → Bool} {inside : Text} {stop : Char}
    (passes : ∀ char ∈ inside, test char = true) (fails : test stop = false) (rest : Text) :
    run test (inside ++ stop :: rest) = (inside, stop :: rest) := by
  have stops : ¬ test stop = true := Bool.eq_false_iff.mp fails
  rw [run, List.takeWhile_append_of_pos passes, List.dropWhile_append_of_pos passes,
    List.takeWhile_cons_of_neg stops, List.dropWhile_cons_of_neg stops, List.append_nil]

/-- A run and what follows it are the text, and the run passes the test. -/
theorem run_spec {test : Char → Bool} {text inside rest : Text}
    (taken : run test text = (inside, rest)) :
    text = inside ++ rest ∧ ∀ char ∈ inside, test char = true := by
  have whole := run_append test text
  have passes : (run test text).1.all test = true := List.all_takeWhile
  rw [taken] at whole passes
  exact ⟨whole.symm, List.all_eq_true.mp passes⟩

/-- The texts with `separator` between them. -/
def join (separator : Text) : List Text → Text
  | [] => []
  | [last] => last
  | first :: rest => first ++ separator ++ join separator rest

/-- The pieces of the text between the separators, at least one. -/
def splitOn (separator : Char) : Text → List Text
  | [] => [[]]
  | char :: rest =>
    if char = separator then [] :: splitOn separator rest
    else match splitOn separator rest with
      | [] => [[char]]
      | piece :: pieces => (char :: piece) :: pieces

/-! ## Order -/

/-- Texts are ordered by code point, a text before its extensions. -/
def le (first second : Text) : Bool :=
  match first, second with
  | [], _ => true
  | _ :: _, [] => false
  | a :: as, b :: bs => if a = b then le as bs else a.toNat < b.toNat

/-! ## Numerals -/

/-- The decimal numeral of a number. -/
def ofNat (number : Nat) : Text :=
  Nat.toDigits 10 number

/-- The decimal numeral of an integer, with a sign only where it is negative. -/
def ofInt : Int → Text
  | .ofNat number => ofNat number
  | .negSucc number => '-' :: ofNat (number + 1)

/-- A digit in base sixteen, in either case. -/
def isHexDigit (char : Char) : Bool :=
  char.isDigit || ('a' ≤ char && char ≤ 'f') || ('A' ≤ char && char ≤ 'F')

/-- The value of a digit in bases up to thirty-six. -/
def digitOf (char : Char) : Nat :=
  if char.isDigit then char.toNat - 48
  else if char.isLower then char.toNat - 87
  else char.toNat - 55

/-- The value of a run of digits in a base. -/
def toNat (base : Nat) (digits : Text) : Nat :=
  digits.foldl (fun value digit => value * base + digitOf digit) 0

/-- The numeral in base sixteen, filled with zeros up to a width. -/
def hexadecimal (width number : Nat) : Text :=
  let digits := Nat.toDigits 16 number
  List.replicate (width - digits.length) '0' ++ digits

/-- The decimal numeral, filled with zeros up to a width. -/
def padded (width number : Nat) : Text :=
  let digits := ofNat number
  List.replicate (width - digits.length) '0' ++ digits

end Text

end GrokEvents
