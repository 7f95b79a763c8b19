/-
**How a line is read.**

The expression of the combined format reads the line of every record from its start to its end, and its
groups find the parts of the record.

* `fields?_line`: the fields that a search finds in the line.
-/

import GrokEvents.Proofs.AccessLog.Parts

namespace GrokEvents.AccessLog

open Expr

variable {subject : Subject} {groups : Nat} {next : Option Char} {done text rest : Text}

/-! ### The end of a line -/

theorem length_le_size (whole : subject.text = done ++ text ++ rest) : text.length ≤ subject.size := by
  rw [subject.size_eq, whole, List.length_append, List.length_append]
  omega

theorem finds_quoted {group : Nat} (positive : 0 < group) (within : group ≤ groups)
    (pieces : List QuotedPiece) :
    Finds subject groups next (.capture group quotedNode) done (quoted pieces) rest
      [(group, quoted pieces)] :=
  .capture positive (by omega) fun whole _ => reads_quoted pieces (length_le_size whole)

theorem finds_number {group : Nat} (positive : 0 < group) (within : group ≤ groups) (number : Number)
    (ends : EndsNumber rest) :
    Finds subject groups next (.capture group numberNode) done number.text rest
      [(group, number.text)] :=
  .capture positive (by omega) fun _ _ => reads_number number ends

theorem endsNumber_space (rest : Text) : EndsNumber (' ' :: rest) :=
  forall_head_cons (by decide)

/-- The bytes of an answer, or a hyphen. -/
def bytesPart (bytes : Option Number) : Text :=
  (bytes.map Number.text).getD ['-']

theorem finds_bytes (within : 9 ≤ groups) (bytes : Option Number) :
    Finds subject groups next (.alt (.capture 9 numberNode) (literal '-')) done (bytesPart bytes)
      (' ' :: rest) (bytes.map fun bytes => (9, bytes.text)).toList := by
  cases bytes with
  | none =>
    exact .alt_second (Blocked.capture (fun _ => blocked_number (endsNumber_space rest)) 9)
      finds_literal
  | some bytes =>
    exact .alt_first (finds_number (by omega) within bytes (endsNumber_space rest)) _

/-- What a number begins with is no letter. -/
theorem head_number_ne (number : Number) (rest : Text) : (number.text ++ rest).head? ≠ some 'H' := by
  obtain ⟨sign, size⟩ := number
  cases sign with
  | none =>
    obtain ⟨char, others, isText, isFirst⟩ := size.text_eq_cons
    have ahead : (Number.text ⟨none, size⟩ ++ rest).head? = some char := by
      rw [Number.text, isText]
      rfl
    intro same
    obtain rfl := Option.some.inj (ahead.symm.trans same)
    revert isFirst
    decide
  | some sign => cases sign <;> exact fun same => absurd (Option.some.inj same) (by decide)

/-! ### The whole line -/

/-- The texts that the groups find, the last first. -/
def Record.found (record : Record) : Entries Nat Text :=
  [(11, quoted record.agent)] ++ [(10, quoted record.referrer)] ++
    (record.bytes.map fun bytes => (9, bytes.text)).toList ++ [(8, record.code.text)] ++
    ((record.version.map fun version => (7, version.text)).toList ++
      [(6, record.request.text), (5, record.method.text)]) ++
    [(4, record.date.text)] ++ [(3, record.auth.text)] ++ [(2, record.ident.text)] ++
    [(1, record.host.text)]

/-- What follows a request line and its closing quote. -/
def endingText (code : Number) (bytes : Option Number) (referrer agent : List QuotedPiece) : Text :=
  [' '] ++ (code.text ++ ([' '] ++ (bytesPart bytes ++ ([' '] ++
    (quoted referrer ++ ([' '] ++ quoted agent))))))

theorem finds_ending (code : Number) (bytes : Option Number) (referrer agent : List QuotedPiece) :
    Finds subject 11 next endingNode done (endingText code bytes referrer agent) []
      ([(11, quoted agent)] ++ [(10, quoted referrer)] ++
        (bytes.map fun bytes => (9, bytes.text)).toList ++ [(8, code.text)]) :=
  .behind_literal (.seq (finds_number (by decide) (by decide) code (endsNumber_space _))
    (.behind_literal (.seq (finds_bytes (by decide) bytes)
      (.behind_literal (.seq (finds_quoted (by decide) (by decide) referrer)
        (.behind_literal (finds_quoted (by decide) (by decide) agent)))))))

/-- What follows the request line of a record and its closing quote. -/
def Record.ending (record : Record) : Text :=
  endingText record.code record.bytes record.referrer record.agent

theorem line_eq (record : Record) : record.line =
    record.host.text ++ ([' '] ++ (record.ident.text ++ ([' '] ++ (record.auth.text ++ ([' '] ++
      (['['] ++ (record.date.text ++ ([']'] ++ ([' '] ++ (['"'] ++ (record.requestLine ++ (['"'] ++
        record.ending)))))))))))) := by
  simp [Record.line, Record.ending, endingText, Text.join, bytesPart]

theorem finds_user {group : Nat} (positive : 0 < group) (within : group ≤ groups)
    (user : Stretch isUserChar) :
    Finds subject groups next (.capture group (many 1 userSet)) done user.text (' ' :: rest)
      [(group, user.text)] :=
  .capture positive (by omega) fun _ _ =>
    reads_stretch user contains_userSet (forall_head_cons (by decide))

theorem finds_line (record : Record) :
    Finds subject 11 none expression.node [] record.line [] record.found := by
  have unworded {done : Text} : wordFirst false (done ++ ['"']).reverse = false := by
    rw [List.reverse_concat]
    rfl
  have noVersion : ((record.code.text ++ ([' '] ++ (bytesPart record.bytes ++ ([' '] ++
      (quoted record.referrer ++ ([' '] ++ quoted record.agent)))))) ++ []).head? ≠ some 'H' := by
    rw [List.append_assoc]
    exact head_number_ne record.code _
  rw [line_eq]
  refine .seq_of_opens (.capture (by decide) (by decide) fun whole _ =>
    reads_host record.host (length_le_size whole)) ((opens_one _ ' ').seq _) ?_
  refine .behind_literal (.seq (finds_user (by decide) (by decide) record.ident) ?_)
  refine .behind_literal (.seq (finds_user (by decide) (by decide) record.auth) ?_)
  refine .behind_literal (.behind_literal (.seq
    (.capture (by decide) (by decide) fun _ _ => reads_date record.date) ?_))
  refine .behind_literal (.behind_literal (.behind_literal ?_))
  refine .seq_of_opens (finds_request (show 7 ≤ 11 by decide) record unworded noVersion _)
    ((opens_one _ '"').seq _) ?_
  exact .behind_literal (finds_ending record.code record.bytes record.referrer record.agent)

/-- **A line is read back as the parts of its record.** -/
theorem fields?_line (record : Record) : expression.fields? record.line = some record.parts := by
  have positive : ∀ entry ∈ expression.names, 0 < entry.2 := by
    decide
  rw [Finds.fields? (finds_line record) positive, Record.parts, Record.found]
  cases record.version <;> cases record.bytes <;> rfl

end GrokEvents.AccessLog
