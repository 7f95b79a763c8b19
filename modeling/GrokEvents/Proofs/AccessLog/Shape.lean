/-
**The expression of the combined format.**

The tree that the built-in pattern of combined access logs comes to, part by part, with the sets of
characters in it.

* `read_expand`: the pattern is expanded and read as this expression, with any number of passes from
  three on.
-/

import GrokEvents.Proofs.AccessLog.Record
import GrokEvents.Proofs.Grok.Table

namespace GrokEvents.AccessLog

open Expr Grok

/-! ### Sets -/

/-- The spans of letters and digits. -/
def letterOrDigit : List SetItem :=
  [.span 'a'.toNat 'z'.toNat, .span 'A'.toNat 'Z'.toNat, .span '0'.toNat '9'.toNat]

/-- The set of what is listed. -/
def setOf (items : List SetItem) : CharSet :=
  ⟨items, false, false, false⟩

/-- The set of what is not listed. -/
def setBut (items : List SetItem) : CharSet :=
  ⟨items, true, false, false⟩

def digitSet : CharSet := setOf [.span '0'.toNat '9'.toNat]

def upperSet : CharSet := setOf [.span 'A'.toNat 'Z'.toNat]

def lowerSet : CharSet := setOf [.span 'a'.toNat 'z'.toNat]

def alphanumSet : CharSet := setOf letterOrDigit

def labelSet : CharSet := setOf (.one '-'.toNat :: letterOrDigit)

def userSet : CharSet := setOf (letterOrDigit ++ [.one '.'.toNat, .one '_'.toNat, .one '-'.toNat])

def signSet : CharSet := setOf [.one '+'.toNat, .one '-'.toNat]

def wordSet : CharSet := setOf [.kind .word false]

def unblankSet : CharSet := setOf [.kind .blank true]

def plainSet : CharSet := setBut [.one '"'.toNat, .one '\\'.toNat]

def sameLineSet : CharSet := setBut [.one '\n'.toNat]

theorem contains_setOf (items : List SetItem) (char : Char) :
    (setOf items).contains char = items.any (SetItem.covers false char) := by
  simp [CharSet.contains, setOf]

theorem contains_setBut (items : List SetItem) (char : Char) :
    (setBut items).contains char = !items.any (SetItem.covers false char) := by
  simp [CharSet.contains, setBut]

theorem covers_one (wide : Bool) (char wanted : Char) :
    (SetItem.one wanted.toNat).covers wide char = (char == wanted) := by
  rw [Bool.eq_iff_iff, beq_iff_eq]
  exact beq_iff_eq.trans (Char.toNat_inj.trans eq_comm)

theorem le_of_covers_span {wide : Bool} {char : Char} {first last : Nat}
    (covered : (SetItem.span first last).covers wide char = true) :
    first ≤ char.toNat ∧ char.toNat ≤ last := by
  rw [SetItem.covers, Bool.and_eq_true, decide_eq_true_eq, decide_eq_true_eq] at covered
  exact covered

theorem covers_digit (wide : Bool) (char : Char) :
    (SetItem.span '0'.toNat '9'.toNat).covers wide char = char.isDigit := rfl

theorem covers_lower (wide : Bool) (char : Char) :
    (SetItem.span 'a'.toNat 'z'.toNat).covers wide char = char.isLower := rfl

theorem covers_upper (wide : Bool) (char : Char) :
    (SetItem.span 'A'.toNat 'Z'.toNat).covers wide char = char.isUpper := by
  rw [Bool.eq_iff_iff, SetItem.covers, Bool.and_eq_true, decide_eq_true_eq, decide_eq_true_eq]
  exact decide_eq_true_iff.symm

theorem any_letterOrDigit (char : Char) :
    letterOrDigit.any (SetItem.covers false char) = char.isAlphanum := by
  show _ = (char.isUpper || char.isLower || char.isDigit)
  simp only [letterOrDigit, List.any_cons, List.any_nil, covers_lower, covers_upper, covers_digit,
    Bool.or_false]
  ac_rfl

theorem contains_digitSet (char : Char) : digitSet.contains char = char.isDigit := by
  rw [digitSet, contains_setOf, List.any_cons, covers_digit, List.any_nil, Bool.or_false]

theorem contains_upperSet (char : Char) : upperSet.contains char = char.isUpper := by
  rw [upperSet, contains_setOf, List.any_cons, covers_upper, List.any_nil, Bool.or_false]

theorem contains_lowerSet (char : Char) : lowerSet.contains char = char.isLower := by
  rw [lowerSet, contains_setOf, List.any_cons, covers_lower, List.any_nil, Bool.or_false]

theorem contains_alphanumSet (char : Char) : alphanumSet.contains char = char.isAlphanum := by
  rw [alphanumSet, contains_setOf, any_letterOrDigit]

theorem contains_labelSet (char : Char) : labelSet.contains char = isLabelChar char := by
  rw [labelSet, contains_setOf, List.any_cons, any_letterOrDigit, covers_one, Bool.or_comm]
  rfl

theorem contains_userSet (char : Char) : userSet.contains char = isUserChar char := by
  rw [userSet, contains_setOf, List.any_append, any_letterOrDigit]
  simp only [List.any_cons, List.any_nil, covers_one, Bool.or_false, isUserChar, Bool.or_assoc]

theorem contains_signSet (char : Char) :
    signSet.contains char = true ↔ char = '+' ∨ char = '-' := by
  rw [signSet, contains_setOf]
  simp only [List.any_cons, List.any_nil, covers_one, Bool.or_false, Bool.or_eq_true, beq_iff_eq]

theorem contains_wordSet (char : Char) : wordSet.contains char = Text.isWordChar char := by
  rw [wordSet, contains_setOf]
  simp [SetItem.covers, Kind.holds]

theorem contains_unblankSet (char : Char) : unblankSet.contains char = !Text.isAsciiBlank char := by
  rw [unblankSet, contains_setOf]
  simp [SetItem.covers, Kind.holds]

theorem contains_plainSet (char : Char) :
    plainSet.contains char = true ↔ char ≠ '"' ∧ char ≠ '\\' := by
  rw [plainSet, contains_setBut]
  simp only [List.any_cons, List.any_nil, covers_one, Bool.or_false, Bool.not_or, Bool.and_eq_true,
    Bool.not_eq_true', beq_eq_false_iff_ne]

theorem contains_sameLineSet (char : Char) : sameLineSet.contains char = true ↔ char ≠ '\n' := by
  rw [sameLineSet, contains_setBut]
  simp only [List.any_cons, List.any_nil, covers_one, Bool.or_false, Bool.not_eq_true',
    beq_eq_false_iff_ne, ne_eq]

/-! ### Parts -/

def literal (char : Char) : Node :=
  .one (.literal char)

/-- So many characters of a set. -/
def exactly (count : Nat) (set : CharSet) : Node :=
  .loop .greedy count (some count) (.one set)

/-- As many characters of a set as there are. -/
def many (least : Nat) (set : CharSet) : Node :=
  .loop .greedy least none (.one set)

def maybe (node : Node) : Node :=
  .loop .greedy 0 (some 1) node

def numberNode : Node :=
  .seq (maybe (.one signSet))
    (.alt (.seq (many 1 digitSet) (maybe (.seq (literal '.') (many 1 digitSet))))
      (.seq (literal '.') (many 1 digitSet)))

/-- Up to three digits. -/
def octetNode : Node :=
  .loop .greedy 1 (some 3) (.one digitSet)

def addressNode : Node :=
  .ofList [octetNode, literal '.', octetNode, literal '.', octetNode, literal '.', octetNode]

def labelNode : Node :=
  .seq (.one alphanumSet) (many 0 labelSet)

def hostNode : Node :=
  .ofList [.one alphanumSet, many 0 labelSet, .loop .greedy 0 none (.seq (literal '.') labelNode)]

def dateNode : Node :=
  .ofList [exactly 2 digitSet, literal '/', .one upperSet, exactly 2 lowerSet, literal '/',
    exactly 4 digitSet, literal ':', exactly 2 digitSet, literal ':', exactly 2 digitSet, literal ':',
    exactly 2 digitSet, literal ' ', .one signSet, exactly 4 digitSet]

def wordNode : Node :=
  .ofList [.anchor (.boundary false), many 1 wordSet, .anchor (.boundary false)]

def versionNode : Node :=
  .ofList [literal ' ', literal 'H', literal 'T', literal 'T', literal 'P', literal '/',
    .capture 7 numberNode]

def requestNode : Node :=
  .ofList [.capture 5 wordNode, literal ' ', .capture 6 (many 1 unblankSet), maybe versionNode]

def pieceNode : Node :=
  .alt (.one plainSet) (.seq (literal '\\') (.one sameLineSet))

def quotedNode : Node :=
  .ofList [literal '"', .loop .greedy 0 none pieceNode, literal '"']

/-- What follows the request line and its closing quote. -/
def endingNode : Node :=
  .ofList [literal ' ', .capture 8 numberNode, literal ' ', .alt (.capture 9 numberNode) (literal '-'),
    literal ' ', .capture 10 quotedNode, literal ' ', .capture 11 quotedNode]

/-! ### The whole -/

/-- The expression of a line in the combined format. -/
def expression : Expression where
  node := .ofList
    [.capture 1 (.alt addressNode hostNode), literal ' ', .capture 2 (many 1 userSet), literal ' ',
      .capture 3 (many 1 userSet), literal ' ', literal '[', .capture 4 dateNode, literal ']',
      literal ' ', literal '"',
      .alt requestNode (.loop .lazy 0 none (.one sameLineSet)), literal '"', endingNode]
  groupCount := 11
  names :=
    [("client_ip".toList, 1), ("ident".toList, 2), ("auth".toList, 3), ("timestamp".toList, 4),
      ("http_method".toList, 5), ("request".toList, 6), ("http_version".toList, 7),
      ("response_code".toList, 8), ("bytes".toList, 9), ("referrer".toList, 10),
      ("user_agent".toList, 11)]

/-- The pattern of the combined format. -/
def combined : Text :=
  "%\x7bCOMBINEDAPACHELOG\x7d".toList

/-- Three passes resolve the pattern, in whose text no character is asked for by its name. The
fields that it declares are not read here. -/
theorem read_three : (expand .builtin 3 combined).value.isResolved = true ∧
    (expand .builtin 3 combined).value.fields.isEmpty = false ∧
      .escape 'N' ∉ lexemes (expand .builtin 3 combined).value.text ∧
        (readLexemes (lexemes (expand .builtin 3 combined).value.text)).toOption = some expression := by
  rw [builtin_eq]
  decide +kernel

/-- With three passes or more, the pattern is expanded and read as the expression. -/
theorem read_expand [CharacterNames] {passes : Nat} (enough : 3 ≤ passes) :
    (expand .builtin passes combined).value.fields.isEmpty = false ∧
      Expr.read (expand .builtin passes combined).value.text = .ok expression := by
  obtain ⟨resolved, fields, unnamed, read⟩ := read_three
  obtain ⟨more, rfl⟩ := Nat.exists_eq_add_of_le enough
  rw [expand_of_resolved resolved]
  refine ⟨fields, ?_⟩
  rw [read_of_unnamed unnamed]
  cases known : readLexemes (lexemes (expand .builtin 3 combined).value.text) with
  | error cause =>
    rw [known] at read
    cases read
  | ok tree =>
    rw [known] at read
    exact congrArg Except.ok (Option.some.inj read)

end GrokEvents.AccessLog
