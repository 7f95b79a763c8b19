/-
**How the parts of a line are read.**

Each part of the expression of the combined format reads the part of the record that it is for, whatever
was read before it and whatever comes after it, as long as the part ends there.

* `reads_host`, `reads_date`, `reads_number`, `reads_quoted`: the parts that are kept as they are.
* `finds_request`: the request line, in which the version may be missing.
-/

import GrokEvents.Proofs.AccessLog.Shape
import GrokEvents.Proofs.Expr.Finding
import Mathlib.Data.Set.List

namespace GrokEvents.AccessLog

open Expr

variable {subject : Subject} {next : Option Char} {done text rest : Text} {captures : Captures}

/-! ### Stretches -/

theorem reads_exactly {count : Nat} {set : CharSet} (length_eq : text.length = count)
    (all : ∀ char ∈ text, set.contains char = true) :
    Reads subject next (exactly count set) done text rest captures captures :=
  reads_loopOne all (Nat.le_of_eq length_eq.symm) (.inl (congrArg some length_eq.symm))

theorem reads_digits {count : Nat} (digits : Digits count) :
    Reads subject next (exactly count digitSet) done digits.text rest captures captures :=
  reads_exactly digits.length_eq
    fun char member => (contains_digitSet char).trans (digits.digits char member)

theorem reads_many {least : Nat} {set : CharSet} (all : ∀ char ∈ text, set.contains char = true)
    (enough : least ≤ text.length)
    (outside : ∀ char, rest.head? = some char → set.contains char = false) :
    Reads subject next (many least set) done text rest captures captures :=
  reads_loopOne all enough
    (.inr ⟨fun _ limited => absurd limited.symm (Option.some_ne_none _), outside⟩)

/-- A stretch is read to its end. -/
theorem reads_stretch {test : Char → Bool} (stretch : Stretch test) {set : CharSet}
    (same : ∀ char, set.contains char = test char)
    (outside : ∀ char, rest.head? = some char → test char = false) :
    Reads subject next (many 1 set) done stretch.text rest captures captures := by
  refine reads_many ?_ (List.length_pos_iff.mpr stretch.text_ne_nil) ?_
  · exact fun char member => (same char).trans (stretch.passes char member)
  · exact fun char ahead => (same char).trans (outside char ahead)

theorem contains_sign (sign : Sign) : signSet.contains sign.char = true := by
  rw [contains_signSet]
  cases sign with
  | plus => exact .inl rfl
  | minus => exact .inr rfl

/-! ### Numbers -/

/-- What comes next can belong to no number. -/
def EndsNumber (rest : Text) : Prop :=
  ∀ char, rest.head? = some char → char.isDigit = false ∧ char ≠ '.'

theorem reads_sign (sign : Option Sign)
    (unsigned : ∀ char, rest.head? = some char → char ≠ '+' ∧ char ≠ '-') :
    Reads subject next (maybe (.one signSet)) done (sign.map Sign.char).toList rest captures
      captures := by
  cases sign with
  | none =>
    refine reads_loopOne (List.forall_mem_nil _) (Nat.zero_le _) (.inr ⟨fun _ _ => Nat.zero_le _, ?_⟩)
    intro char ahead
    obtain ⟨noPlus, noMinus⟩ := unsigned char ahead
    rw [← Bool.not_eq_true, contains_signSet]
    exact not_or.mpr ⟨noPlus, noMinus⟩
  | some sign =>
    refine reads_loopOne ?_ (Nat.zero_le _) (.inl rfl)
    intro char member
    rw [List.mem_singleton.mp member]
    exact contains_sign sign

theorem blocked_literal {char other : Char} (different : char ≠ other) :
    Blocked subject (literal char) ⟨.between done (other :: rest), captures⟩ := by
  refine blocked_one (forall_head_cons ?_)
  rw [← Bool.not_eq_true, CharSet.literal_contains]
  exact different

/-- A point and digits. -/
theorem reads_point (digits : Stretch Char.isDigit) (ends : EndsNumber rest) :
    Reads subject next (.seq (literal '.') (many 1 digitSet)) done ('.' :: digits.text) rest captures
      captures :=
  .seq reads_literal (reads_stretch digits contains_digitSet fun char ahead => (ends char ahead).1)

theorem blocked_point (ends : EndsNumber rest) :
    Blocked subject (.seq (literal '.') (many 1 digitSet)) ⟨.between done rest, captures⟩ := by
  refine Blocked.seq (blocked_one ?_) _
  intro char ahead
  rw [← Bool.not_eq_true, CharSet.literal_contains]
  exact fun same => (ends char ahead).2 same.symm

theorem reads_magnitude (size : Magnitude) (ends : EndsNumber rest) :
    Reads subject next (.alt (.seq (many 1 digitSet) (maybe (.seq (literal '.') (many 1 digitSet))))
      (.seq (literal '.') (many 1 digitSet))) done size.text rest captures captures := by
  cases size with
  | whole digits =>
    have whole : Reads subject next
        (.seq (many 1 digitSet) (maybe (.seq (literal '.') (many 1 digitSet)))) done
          (digits.text ++ []) rest captures captures :=
      .seq (reads_stretch digits contains_digitSet fun char ahead => (ends char ahead).1)
        (reads_nothing (fun _ => Node.noConfusion) (blocked_point ends))
    rw [List.append_nil] at whole
    exact whole.alt_first _
  | decimal digits behind =>
    refine Reads.alt_first (.seq (reads_stretch digits contains_digitSet ?_) ?_) _
    · exact forall_head_cons (by decide)
    · exact reads_optional (fun _ => Node.noConfusion) (reads_point behind ends)
  | fraction digits =>
    exact .alt_second (Blocked.seq (blocked_loopOne (forall_head_cons (by decide))) _)
      (reads_point digits ends)

/-- A number is read to its end. -/
theorem reads_number (number : Number) (ends : EndsNumber rest) :
    Reads subject next numberNode done number.text rest captures captures := by
  refine Reads.seq (reads_sign number.sign ?_) (reads_magnitude number.size ends)
  obtain ⟨first, others, same, noSign⟩ := number.size.text_unsigned
  rw [same]
  exact forall_head_cons noSign

/-- A hyphen that no number follows is no number. -/
theorem blocked_number (ends : EndsNumber rest) :
    Blocked subject numberNode ⟨.between done ('-' :: rest), captures⟩ := by
  have noNumber {rest : Text} {done : Text} (ends : EndsNumber rest) : Blocked subject
      (.alt (.seq (many 1 digitSet) (maybe (.seq (literal '.') (many 1 digitSet))))
        (.seq (literal '.') (many 1 digitSet))) ⟨.between done rest, captures⟩ := by
    refine .alt (Blocked.seq (blocked_loopOne ?_) _) (blocked_point ends)
    intro char ahead
    rw [contains_digitSet]
    exact (ends char ahead).1
  exact Blocked.optional (noNumber ends) (noNumber (forall_head_cons (by decide)))

/-! ### Dates -/

/-- A capital letter and two small ones. -/
def isAbbreviation : Text → Bool
  | [] => false
  | first :: others => first.isUpper && others.length == 2 && others.all Char.isLower

theorem monthName_spec (date : Date) : ∃ first others, date.monthName = first :: others ∧
    first.isUpper = true ∧ others.length = 2 ∧ ∀ char ∈ others, char.isLower = true := by
  have all : ∀ name ∈ Time.AccessDate.monthNames, isAbbreviation name = true := by
    decide
  have short : isAbbreviation date.monthName = true := all _ (List.getElem_mem _)
  cases name : date.monthName with
  | nil =>
    rw [name] at short
    cases short
  | cons first others =>
    rw [name, isAbbreviation, Bool.and_eq_true, Bool.and_eq_true] at short
    obtain ⟨⟨upper, two⟩, lower⟩ := short
    exact ⟨first, others, rfl, upper, beq_iff_eq.mp two, List.all_eq_true.mp lower⟩

theorem reads_looseDate (date : LooseDate) :
    Reads subject next dateNode done date.text rest captures captures := by
  have spelled : date.text = date.day.text ++ (['/'] ++ ([date.capital] ++ (date.small ++ (['/'] ++
      (date.year.text ++ ([':'] ++ (date.hour.text ++ ([':'] ++ (date.minute.text ++ ([':'] ++
        (date.second.text ++ ([' '] ++ ([date.sign.char] ++ date.offset.text))))))))))))) := by
    simp [LooseDate.text, Text.join]
  rw [spelled]
  refine .seq (reads_digits _) (.seq reads_literal (.seq (reads_one ?_)
    (.seq (reads_exactly date.length_small ?_) ?_)))
  · exact (contains_upperSet _).trans date.isUpper_capital
  · exact fun char member => (contains_lowerSet char).trans (date.isLower_small char member)
  refine .seq reads_literal (.seq (reads_digits _) (.seq reads_literal (.seq (reads_digits _) ?_)))
  refine .seq reads_literal (.seq (reads_digits _) (.seq reads_literal (.seq (reads_digits _) ?_)))
  exact .seq reads_literal (.seq (reads_one (contains_sign date.sign)) (reads_digits _))

theorem reads_date (date : Date) :
    Reads subject next dateNode done date.text rest captures captures := by
  obtain ⟨capital, small, isName, upper, two, lower⟩ := monthName_spec date
  let loose : LooseDate :=
    ⟨date.day, capital, small, upper, two, lower, date.year, date.hour, date.minute, date.second,
      date.sign, date.offset⟩
  have same : date.text = loose.text := by
    rw [Date.text, isName]
    rfl
  rw [same]
  exact reads_looseDate loose

/-! ### Hosts -/

def isHostChar (char : Char) : Bool :=
  isLabelChar char || char == '.'

/-- No label goes on here. -/
def EndsLabel (rest : Text) : Prop :=
  ∀ char, rest.head? = some char → isLabelChar char = false

theorem reads_labelChars (label : Label) (ends : EndsLabel rest) :
    Reads subject next (many 0 labelSet) done label.others rest captures captures := by
  refine reads_many ?_ (Nat.zero_le _) ?_
  · exact fun char member => (contains_labelSet char).trans (label.others_isLabelChar char member)
  · exact fun char ahead => (contains_labelSet char).trans (ends char ahead)

theorem reads_label (label : Label) (ends : EndsLabel rest) :
    Reads subject next labelNode done label.text rest captures captures :=
  .seq (reads_one ((contains_alphanumSet _).trans label.first_isAlphanum))
    (reads_labelChars label ends)

/-- A label ends where the next one begins or the host does. -/
theorem endsLabel_dotted (labels : List Label) (rest : Text) :
    EndsLabel ((labels.map Label.dotted).flatten ++ ' ' :: rest) := by
  cases labels with
  | nil => exact forall_head_cons (by decide)
  | cons label labels => exact forall_head_cons (by decide)

theorem reads_dotted (labels : List Label)
    (room : (labels.map Label.dotted).flatten.length ≤ subject.size) :
    Reads subject next (.loop .greedy 0 none (.seq (literal '.') labelNode)) done
      (labels.map Label.dotted).flatten (' ' :: rest) captures captures := by
  refine reads_rounds EndsLabel (fun _ => Node.noConfusion) ?_ ?_ ?_
    (endsLabel_dotted [] rest) (fun _ => .seq (blocked_literal (by decide)) _) room
  · intro done round rest member ends
    obtain ⟨label, -, rfl⟩ := List.mem_map.mp member
    exact .seq reads_literal (reads_label label ends)
  · intro round member
    obtain ⟨label, -, rfl⟩ := List.mem_map.mp member
    exact List.cons_ne_nil _ _
  · intro round member rest
    obtain ⟨label, -, rfl⟩ := List.mem_map.mp member
    exact forall_head_cons (by decide)

theorem reads_hostName (host : Host) (room : host.text.length ≤ subject.size) :
    Reads subject next hostNode done host.text (' ' :: rest) captures captures := by
  have fits : (host.others.map Label.dotted).flatten.length ≤ subject.size := by
    rw [Host.text, List.length_append] at room
    omega
  show Reads subject next hostNode done ([host.first.first] ++ (host.first.others ++
    (host.others.map Label.dotted).flatten)) (' ' :: rest) captures captures
  exact .seq (reads_one ((contains_alphanumSet _).trans host.first.first_isAlphanum))
    (.seq (reads_labelChars host.first (endsLabel_dotted host.others rest))
      (reads_dotted host.others fits))

theorem isHostChar_of_mem_text {host : Host} {char : Char} (member : char ∈ host.text) :
    isHostChar char = true := by
  have ofLabel {label : Label} (inLabel : char ∈ label.text) : isLabelChar char = true := by
    rcases List.mem_cons.mp inLabel with rfl | inOthers
    · rw [isLabelChar, label.first_isAlphanum, Bool.true_or]
    · exact label.others_isLabelChar char inOthers
  rw [isHostChar, Bool.or_eq_true, beq_iff_eq]
  rcases List.mem_append.mp member with inFirst | inOthers
  · exact .inl (ofLabel inFirst)
  · obtain ⟨round, isRound, inRound⟩ := List.mem_flatten.mp inOthers
    obtain ⟨label, -, rfl⟩ := List.mem_map.mp isRound
    rcases List.mem_cons.mp inRound with rfl | inLabel
    · exact .inr rfl
    · exact .inl (ofLabel inLabel)

theorem exists_label_of_octet {text : Text} (spelled : octetNode.Spells text) :
    ∃ label : Label, label.text = text := by
  obtain ⟨all, enough⟩ := Rounds.of_one spelled
  cases text with
  | nil => cases enough
  | cons first others =>
    obtain ⟨digit, digits⟩ := List.forall_mem_cons.mp all
    refine ⟨⟨first, others, ?_, fun char member => ?_⟩, rfl⟩
    · rw [Char.isAlphanum, ← contains_digitSet, digit, Bool.or_true]
    · rw [isLabelChar, Char.isAlphanum, ← contains_digitSet, digits char member, Bool.or_true]
      rfl

theorem eq_of_spells_literal {char : Char} {text : Text} (spelled : (literal char).Spells text) :
    text = [char] := by
  obtain ⟨other, contained, rfl⟩ := spelled
  rw [(CharSet.literal_contains char other).mp contained]

/-- An address is a host of four labels. -/
theorem exists_host_of_address {text : Text} (spelled : addressNode.Spells text) :
    ∃ host : Host, host.text = text := by
  obtain ⟨one, _, isOne, ⟨dot, _, isDot, ⟨two, _, isTwo, ⟨dot', _, isDot', ⟨three, _, isThree,
    ⟨dot'', four, isDot'', isFour, rfl⟩, rfl⟩, rfl⟩, rfl⟩, rfl⟩, rfl⟩ := spelled
  obtain ⟨first, rfl⟩ := exists_label_of_octet isOne
  obtain ⟨second, rfl⟩ := exists_label_of_octet isTwo
  obtain ⟨third, rfl⟩ := exists_label_of_octet isThree
  obtain ⟨fourth, rfl⟩ := exists_label_of_octet isFour
  obtain rfl := eq_of_spells_literal isDot
  obtain rfl := eq_of_spells_literal isDot'
  obtain rfl := eq_of_spells_literal isDot''
  exact ⟨⟨first, [second, third, fourth]⟩, by simp [Host.text, Label.dotted]⟩

theorem exists_label {text : Text} (spelled : labelNode.Spells text) :
    ∃ label : Label, label.text = text := by
  obtain ⟨_, others, ⟨first, alphanum, rfl⟩, inOthers, rfl⟩ := spelled
  refine ⟨⟨first, others, (contains_alphanumSet first).symm.trans alphanum, fun char member => ?_⟩, rfl⟩
  exact (contains_labelSet char).symm.trans ((Rounds.of_one inOthers).1 char member)

/-- What is spelled as a host is one. -/
theorem exists_host {text : Text} (spelled : (Node.alt addressNode hostNode).Spells text) :
    ∃ host : Host, host.text = text := by
  rcases spelled with isAddress | isName
  · exact exists_host_of_address isAddress
  · obtain ⟨one, _, isFirst, ⟨others, _, inOthers, ⟨rounds, each, -, -, rfl⟩, rfl⟩, rfl⟩ := isName
    obtain ⟨first, same⟩ := exists_label ⟨one, others, isFirst, inOthers, rfl⟩
    have dotted : rounds ∈ Set.range (List.map Label.dotted) := by
      rw [Set.range_list_map]
      intro round member
      obtain ⟨dot, name, isDot, isLabel, rfl⟩ := each round member
      obtain ⟨label, rfl⟩ := exists_label isLabel
      obtain rfl := eq_of_spells_literal isDot
      exact ⟨label, rfl⟩
    obtain ⟨labels, rfl⟩ := dotted
    exact ⟨⟨first, labels⟩, by rw [Host.text, same, List.append_assoc]⟩

theorem isHostChar_of_spells_address (text : Text) (spelled : addressNode.Spells text) :
    ∀ char ∈ text, isHostChar char = true := by
  obtain ⟨host, rfl⟩ := exists_host_of_address spelled
  exact fun _ => isHostChar_of_mem_text

/-- A host is read to its end, be it an address, one that only starts like an address, or a name. -/
theorem reads_host (host : Host) (room : host.text.length ≤ subject.size) :
    Reads subject (some ' ') (.alt addressNode hostNode) done host.text (' ' :: rest) captures
      captures :=
  .alt_spelled rfl isHostChar_of_spells_address (by decide) (fun _ => isHostChar_of_mem_text)
    (reads_hostName host room)

/-! ### Quoted texts -/

theorem reads_piece (piece : QuotedPiece) :
    Reads subject next pieceNode done piece.text rest captures captures := by
  cases piece with
  | plain char isPlain => exact .alt_first (reads_one ((contains_plainSet char).mpr isPlain)) _
  | escaped char sameLine =>
    exact .alt_second (blocked_one (forall_head_cons (by decide)))
      (.seq reads_literal (reads_one ((contains_sameLineSet char).mpr sameLine)))

theorem blocked_piece : Blocked subject pieceNode ⟨.between done ('"' :: rest), captures⟩ :=
  .alt (blocked_one (forall_head_cons (by decide))) (.seq (blocked_literal (by decide)) _)

/-- A quoted text is read to its closing quote, whatever is escaped in it. -/
theorem reads_quoted (pieces : List QuotedPiece) (room : (quoted pieces).length ≤ subject.size) :
    Reads subject next quotedNode done (quoted pieces) rest captures captures := by
  have fits : (inside pieces).length ≤ subject.size := by
    rw [quoted, List.length_append, List.length_cons] at room
    omega
  have rounds {done : Text} : Reads subject none (.loop .greedy 0 none pieceNode) done (inside pieces)
      ('"' :: rest) captures captures := by
    refine reads_rounds (fun _ => True) (fun _ => Node.noConfusion) ?_ ?_ (fun _ _ _ => trivial) trivial
      (fun _ => blocked_piece) fits
    · intro done round rest member _
      obtain ⟨piece, -, rfl⟩ := List.mem_map.mp member
      exact reads_piece piece
    · intro round member
      obtain ⟨piece, -, rfl⟩ := List.mem_map.mp member
      cases piece with
      | plain => exact List.cons_ne_nil _ _
      | escaped => exact List.cons_ne_nil _ _
  show Reads subject next quotedNode done (['"'] ++ (inside pieces ++ ['"'])) rest captures captures
  exact .seq reads_literal (.seq rounds reads_literal)

/-! ### Request lines -/

theorem wordFirst_of_passes {text : Text} (nonempty : text ≠ [])
    (passes : ∀ char ∈ text, Text.isWordChar char = true) (rest : Text) :
    wordFirst false (text ++ rest) = true := by
  obtain ⟨char, others, rfl⟩ := List.exists_cons_of_ne_nil nonempty
  exact passes char List.mem_cons_self

/-- A word is read where no word is before it or after it. -/
theorem reads_word (word : Stretch Text.isWordChar) (before : wordFirst false done.reverse = false)
    (after : ∀ char, rest.head? = some char → Text.isWordChar char = false) :
    Reads subject next wordNode done word.text rest captures captures := by
  have starts : Anchor.holds (.between done (word.text ++ rest)) (.boundary false) = true := by
    show (wordFirst false done.reverse != wordFirst false (word.text ++ rest)) = true
    rw [before, wordFirst_of_passes word.text_ne_nil word.passes]
    rfl
  have ends : Anchor.holds (.between (done ++ word.text) rest) (.boundary false) = true := by
    have last : wordFirst false (done ++ word.text).reverse = true := by
      rw [List.reverse_append]
      exact wordFirst_of_passes (List.reverse_ne_nil_iff.mpr word.text_ne_nil)
        (fun char member => word.passes char (List.mem_reverse.mp member)) _
    have first : wordFirst false rest = false := by
      cases rest with
      | nil => rfl
      | cons char rest => exact after char rfl
    show (wordFirst false (done ++ word.text).reverse != wordFirst false rest) = true
    rw [last, first]
    rfl
  have row : Reads subject next wordNode done ([] ++ (word.text ++ [])) rest captures captures := by
    refine .seq (reads_anchor ?_) ?_
    · rw [List.append_nil]
      exact starts
    · rw [List.append_nil done]
      exact .seq (reads_stretch word contains_wordSet after) (reads_anchor ends)
  rw [List.nil_append, List.append_nil] at row
  exact row

/-- The version of a request, with the space before it. -/
def versionPart (version : Option Number) : Text :=
  (version.map fun version => " HTTP/".toList ++ version.text).getD []

theorem blocked_version (different : rest.head? ≠ some 'H') :
    Blocked subject versionNode ⟨.between done (' ' :: rest), captures⟩ := by
  refine .behind_one (.seq (blocked_one ?_) _)
  intro char ahead
  rw [← Bool.not_eq_true, CharSet.literal_contains]
  rintro rfl
  exact different ahead

/-- A request without a version is read to the last quote before a space. -/
theorem finds_bare {groups : Nat} (within : 6 ≤ groups) (request : Stretch (!Text.isAsciiBlank ·))
    (different : rest.head? ≠ some 'H') :
    Finds subject groups (some '"') (.seq (.capture 6 (many 1 unblankSet)) (maybe versionNode)) done
      request.text ('"' :: ' ' :: rest) [(6, request.text)] := by
  refine .of_mark (by omega) (fun _ captures => ?_) (by omega)
  refine reads_giving_back ?_ ?_ ?_ ?_ ?_ ?_
  · exact fun char member => (contains_unblankSet char).trans (request.passes char member)
  · exact List.length_pos_iff.mpr request.text_ne_nil
  · decide
  · exact forall_head_cons (by decide)
  · -- Behind the quote there is a space, but no version and no second quote.
    intro captures follow asks
    rw [maybe, step_loop_of_blocked (fun _ => Node.noConfusion) (blocked_version different)]
    by_contra goes
    have ahead := asks _ (Option.isSome_iff_ne_none.mpr goes)
    cases ahead
  · exact fun captures =>
      reads_nothing (fun _ => Node.noConfusion) (.seq (blocked_literal (by decide)) _)

theorem finds_version {groups : Nat} (within : 7 ≤ groups) (version : Number)
    (ends : EndsNumber rest) :
    Finds subject groups next versionNode done (" HTTP/".toList ++ version.text) rest
      [(7, version.text)] := by
  have whole : Finds subject groups next versionNode done ([' '] ++ (['H'] ++ (['T'] ++ (['T'] ++
      (['P'] ++ (['/'] ++ version.text)))))) rest [(7, version.text)] :=
    .behind_literal (.behind_literal (.behind_literal (.behind_literal (.behind_literal
      (.behind_literal (.capture (by omega) (by omega) fun _ _ => reads_number version ends))))))
  exact whole

/-- What is asked for, and the version if there is one. -/
theorem finds_target {groups : Nat} (within : 7 ≤ groups) (request : Stretch (!Text.isAsciiBlank ·))
    (version : Option Number) (different : rest.head? ≠ some 'H') :
    Finds subject groups (some '"') (.seq (.capture 6 (many 1 unblankSet)) (maybe versionNode)) done
      (request.text ++ versionPart version) ('"' :: ' ' :: rest)
      ((version.map fun version => (7, version.text)).toList ++ [(6, request.text)]) := by
  cases version with
  | none =>
    rw [versionPart, Option.map_none, Option.getD_none, List.append_nil]
    exact finds_bare (by omega) request different
  | some version =>
    refine .seq (.capture (by omega) (by omega) fun _ _ => reads_stretch request contains_unblankSet ?_)
      (.optional (fun _ => Node.noConfusion) (finds_version within version ?_))
    · exact forall_head_cons (by decide)
    · exact forall_head_cons (by decide)

theorem requestLine_eq (record : Record) : record.requestLine =
    record.method.text ++ ([' '] ++ (record.request.text ++ versionPart record.version)) := by
  cases same : record.version with
  | none => simp [Record.requestLine, Text.join, versionPart, same]
  | some version => simp [Record.requestLine, Text.join, versionPart, same]

/-- The request line is read between its quotes. -/
theorem finds_request {groups : Nat} (within : 7 ≤ groups) (record : Record)
    (before : wordFirst false done.reverse = false) (different : rest.head? ≠ some 'H')
    (second : Node) :
    Finds subject groups (some '"') (.alt requestNode second) done record.requestLine
      ('"' :: ' ' :: rest)
      ((record.version.map fun version => (7, version.text)).toList ++
        [(6, record.request.text), (5, record.method.text)]) := by
  have whole : Finds subject groups (some '"') requestNode done (record.method.text ++ ([' '] ++
      (record.request.text ++ versionPart record.version))) ('"' :: ' ' :: rest)
      ((record.version.map fun version => (7, version.text)).toList ++ [(6, record.request.text)] ++
        [(5, record.method.text)]) := by
    refine .seq (.capture (by omega) (by omega) fun _ _ => reads_word record.method before ?_)
      (.behind_literal (finds_target within record.request record.version different))
    exact forall_head_cons (by decide)
  rw [requestLine_eq]
  rw [List.append_assoc] at whole
  exact whole.alt_first second

end GrokEvents.AccessLog
