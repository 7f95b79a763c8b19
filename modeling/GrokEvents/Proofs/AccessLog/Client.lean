/-
**The client of a line.**

The expression of the combined format is searched for in a line, so that it need not be entered at the
start of the line. What it keeps as the client is a host, namely the longest one that the first word of
the line ends with.

* `exists_host_of_fields?`: what is kept as the client of any line is a host.
* `fields?_of_isClient`: the client of a line in the combined format, whatever its first word and its
  request are.
* `client_of_run`: what a configuration for the combined format gives as the client.
-/

import GrokEvents.Proofs.AccessLog.RoundTrip
import GrokEvents.Proofs.Filter.Provenance

namespace GrokEvents.AccessLog

open Expr Grok Filter

/-! ### Lines -/

/-- A line of the combined format with any word for its host and any text for its request. -/
structure Entry where
  host : Stretch (!Text.isBlank ·)
  ident : Stretch isUserChar
  auth : Stretch isUserChar
  date : LooseDate
  request : Text
  request_sameLine : ∀ char ∈ request, char ≠ '\n'
  code : Number
  bytes : Option Number
  referrer : List QuotedPiece
  agent : List QuotedPiece

namespace Entry

def line (entry : Entry) : Text :=
  Text.join [' ']
    [entry.host.text, entry.ident.text, entry.auth.text, '[' :: entry.date.text ++ [']'],
      '"' :: entry.request ++ ['"'], entry.code.text, (entry.bytes.map Number.text).getD ['-'],
      quoted entry.referrer, quoted entry.agent]

/-- What follows the first word and its space. -/
def tail (entry : Entry) : Text :=
  entry.ident.text ++ ([' '] ++ (entry.auth.text ++ ([' '] ++ (['['] ++ (entry.date.text ++ ([']'] ++
    ([' '] ++ (['"'] ++ (entry.request ++ (['"'] ++
      endingText entry.code entry.bytes entry.referrer entry.agent))))))))))

theorem line_eq (entry : Entry) : entry.line = entry.host.text ++ ' ' :: entry.tail := by
  simp [line, tail, endingText, bytesPart, Text.join]

/-- A line has no white space around it. -/
theorem trim_line (entry : Entry) : Text.trim entry.line = entry.line := by
  obtain ⟨first, others, isHost⟩ := List.exists_cons_of_ne_nil entry.host.text_ne_nil
  have visible : Text.isBlank first = false :=
    (Bool.not_eq_true' _).mp (entry.host.passes first (isHost ▸ List.mem_cons_self))
  have last : (others ++ ' ' :: entry.tail).getLast? = some '"' := by
    rw [tail, endingText]
    simp [quoted, List.getLast?_cons]
  obtain ⟨middle, same⟩ := List.getLast?_eq_some_iff.mp last
  rw [line_eq, isHost, List.cons_append, same]
  exact trim_of_ends visible (by decide) middle

end Entry

/-! ### Words -/

/-- The first words of two texts that are equal are equal. -/
theorem word_eq_of_append {one two more rest : Text} (oneWord : ' ' ∉ one) (twoWord : ' ' ∉ two)
    (same : one ++ ' ' :: more = two ++ ' ' :: rest) : one = two := by
  have unspaced {word : Text} (isWord : ' ' ∉ word) : ∀ char ∈ word, (char != ' ') = true :=
    fun char member => bne_iff_ne.mpr fun isSpace => isWord (isSpace ▸ member)
  have runs := congrArg (Text.run (· != ' ')) same
  rw [Text.run_of_stop (unspaced oneWord) (by decide),
    Text.run_of_stop (unspaced twoWord) (by decide)] at runs
  exact (Prod.mk.inj runs).1

theorem space_not_mem_host (host : Host) : ' ' ∉ host.text :=
  fun member => absurd (isHostChar_of_mem_text member) (by decide)

theorem Entry.space_not_mem (entry : Entry) : ' ' ∉ entry.host.text :=
  fun member => absurd (entry.host.passes _ member) (by decide)

/-- The client that a word names: the longest host that it ends with. -/
structure IsClient (word : Text) (client : Host) : Prop where
  isSuffix : client.text <:+ word
  longest : ∀ other : Host, other.text <:+ word → other.text.length ≤ client.text.length

/-- A word that ends with a host names a client. -/
theorem exists_isClient {word : Text} {host : Host} (ends : host.text <:+ word) :
    ∃ client, IsClient word client := by
  induction word with
  | nil =>
    refine ⟨host, ends, fun other otherEnds => ?_⟩
    rw [List.suffix_nil.mp otherEnds]
    exact Nat.zero_le _
  | cons char word ih =>
    by_cases whole : ∃ client : Host, client.text = char :: word
    · obtain ⟨client, same⟩ := whole
      exact ⟨client, same ▸ List.suffix_rfl, fun other otherEnds => same ▸ otherEnds.length_le⟩
    · have inside (other : Host) (otherEnds : other.text <:+ char :: word) : other.text <:+ word :=
        (List.suffix_cons_iff.mp otherEnds).resolve_left fun same => whole ⟨other, same⟩
      obtain ⟨client, isClient⟩ := ih (inside host ends)
      exact ⟨client, isClient.isSuffix.trans (List.suffix_cons char word),
        fun other otherEnds => isClient.longest other (inside other otherEnds)⟩

/-! ### Groups -/

theorem text?_congr {captures kept : Captures} {group : Nat}
    (same : captures[group - 1]? = kept[group - 1]?) (subject : Text) :
    captures.text? subject group = kept.text? subject group := by
  rw [Captures.text?, Captures.text?, Captures.ends?, Captures.ends?, same]

/-- What follows the client in the expression. -/
def behindClient : Node :=
  .ofList
    [literal ' ', .capture 2 (many 1 userSet), literal ' ', .capture 3 (many 1 userSet), literal ' ',
      literal '[', .capture 4 dateNode, literal ']', literal ' ', literal '"',
      .alt requestNode (.loop .lazy 0 none (.one sameLineSet)), literal '"', endingNode]

/-- The captures before anything is matched. -/
def unset : Captures :=
  List.replicate expression.groupCount {}

variable {subject : Subject} {done after : Text}

/-- Wherever the expression is matched, it starts with a host and a space, and keeps the host. -/
theorem client_of_step {found : Progress} (whole : subject.text = done ++ after)
    (matched : expression.node.step subject ⟨.between done after, unset⟩ some = some found) :
    ∃ (client : Host) (rest : Text), after = client.text ++ ' ' :: rest ∧
      found.captures.text? subject.text 1 = some client.text := by
  have matched : (Node.alt addressNode hostNode).step subject
      ⟨.between done after, unset.modify (1 - 1) fun span => { span with opened := some done.length }⟩
      (fun reached => behindClient.step subject ⟨reached.cursor, reached.captures.modify (1 - 1)
        fun span => { span with closed := some reached.cursor.position }⟩ some) = some found := matched
  obtain ⟨text, ⟨cursor, kept⟩, spelled, moved, onward⟩ :=
    faithful_step subject (.alt addressNode hostNode) _ _ _ matched
  obtain ⟨client, rfl⟩ := exists_host spelled
  obtain ⟨rest, rfl, rfl⟩ := moved.between
  obtain rfl := moved.captures_eq
  have opens : Opens subject (some ' ') behindClient := (opens_one subject ' ').seq _
  have space : rest.head? = some ' ' := opens some _ (by rw [onward]; rfl)
  obtain ⟨left, rfl⟩ := List.head?_eq_some_iff.mp space
  -- No later group has the number of the client.
  obtain ⟨_, reached, -, behind, same⟩ := faithful_step subject behindClient _ _ _ onward
  obtain rfl := Option.some.inj same
  have spares : Spares behindClient.groups (1 - 1) := by
    decide
  have marked := text?_congr (behind.spans _ spares) subject.text
  refine ⟨client, left, rfl, marked.trans ?_⟩
  show Captures.text? ((unset.modify (1 - 1) fun span =>
      { span with opened := some done.length }).modify (1 - 1) fun span =>
        { span with closed := some (done ++ client.text).length }) subject.text 1 = _
  rw [Captures.modify_eq_mark, whole, ← List.append_assoc]
  exact Captures.text?_mark_self (by decide) done client.text _

/-! ### Searching -/

/-- The search for the expression in a subject. -/
def searched? (subject : Subject) : Option Progress :=
  searchFrom (expression.node.step subject) unset subject.text (.between [] subject.text)

/-- The fields of a line, where the search finds something with a client. -/
theorem fields?_of_searched {line client : Text} {found : Progress}
    (searched : searched? { text := line } = some found)
    (kept : found.captures.text? line 1 = some client) :
    ∃ fields, expression.fields? line = some fields ∧
      Entries.get? "client_ip".toList fields = some client := by
  obtain ⟨ends, isEnds, rfl⟩ := Option.map_eq_some_iff.mp kept
  refine ⟨expression.names.filterMap fun entry =>
    (found.captures.ends? entry.2).map fun ends => (entry.1, slice line ends), ?_, ?_⟩
  · show ((searched? { text := line }).map Progress.captures).map _ = _
    rw [searched]
    rfl
  · rw [expression, List.filterMap_cons, isEnds]
    exact Entries.get?_cons_self _ _ _

theorem exists_searched_of_fields? {line : Text} {fields : Fields}
    (found : expression.fields? line = some fields) :
    ∃ reached, searched? { text := line } = some reached := by
  change ((searched? { text := line }).map Progress.captures).map _ = _ at found
  cases searched : searched? { text := line } with
  | none =>
    rw [searched] at found
    cases found
  | some reached => exact ⟨reached, rfl⟩

/-- **What is kept as the client of a line is a host**, whatever the line is. -/
theorem exists_host_of_fields? {line : Text} {fields : Fields}
    (found : expression.fields? line = some fields) :
    ∃ client : Host, Entries.get? "client_ip".toList fields = some client.text := by
  obtain ⟨reached, searched⟩ := exists_searched_of_fields? found
  obtain ⟨passed, after, whole, matched⟩ := exists_of_searchFrom searched
  obtain ⟨client, -, -, kept⟩ := client_of_step whole matched
  obtain ⟨others, same, isClient⟩ := fields?_of_searched searched kept
  obtain rfl := Option.some.inj (found.symm.trans same)
  exact ⟨client, isClient⟩

/-- The rest of a line is read behind any host. -/
theorem admits_line (entry : Entry) (client : Host) (done : Text) :
    Admits subject 11 none expression.node done (client.text ++ ([' '] ++ entry.tail)) [] := by
  have sameLine : ∀ char ∈ entry.request, sameLineSet.contains char = true :=
    fun char member => (contains_sameLineSet char).mpr (entry.request_sameLine char member)
  refine .seq_of_opens (Finds.admits (.capture (by decide) (by decide) fun whole _ =>
    reads_host client (length_le_size whole))) ((opens_one _ ' ').seq _) ?_
  refine .behind_literal (.seq (finds_user (by decide) (by decide) entry.ident).admits ?_)
  refine .behind_literal (.seq (finds_user (by decide) (by decide) entry.auth).admits ?_)
  refine .behind_literal (.behind_literal (.seq
    (Finds.admits (.capture (by decide) (by decide) fun _ _ => reads_looseDate entry.date)) ?_))
  refine .behind_literal (.behind_literal (.behind_literal ?_))
  refine .seq (.alt_second (admits_lazy sameLine) _) ?_
  exact .behind_literal (finds_ending entry.code entry.bytes entry.referrer entry.agent).admits

/-- Where the expression is entered in the first word of a line, what is left of the word is the
client. -/
theorem client_of_entered {entry : Entry} {passed left : Text} (word : passed ++ left = entry.host.text)
    {found : Progress} (matched : expression.node.step { text := entry.line }
      ⟨.between passed (left ++ ' ' :: entry.tail), unset⟩ some = some found) :
    ∃ client : Host, client.text = left ∧ found.captures.text? entry.line 1 = some client.text := by
  have whole : entry.line = passed ++ (left ++ ' ' :: entry.tail) := by
    rw [entry.line_eq, ← word, List.append_assoc]
  obtain ⟨client, rest, same, kept⟩ := client_of_step whole matched
  have unspaced : ' ' ∉ left :=
    fun member => entry.space_not_mem (word ▸ List.mem_append_right passed member)
  exact ⟨client, (word_eq_of_append unspaced (space_not_mem_host client) same).symm, kept⟩

/-- The search enters a line where its client starts. -/
theorem searched?_of_isClient {entry : Entry} {client : Host}
    (isClient : IsClient entry.host.text client) :
    ∃ found, searched? { text := entry.line } = some found ∧
      found.captures.text? entry.line 1 = some client.text := by
  obtain ⟨before, word⟩ := isClient.isSuffix
  have line : entry.line = before ++ (client.text ++ ' ' :: entry.tail) := by
    rw [entry.line_eq, ← word, List.append_assoc]
  have goes : (expression.node.step { text := entry.line }
      ⟨.between before (client.text ++ ' ' :: entry.tail), unset⟩ some).isSome = true := by
    have whole : entry.line = before ++ (client.text ++ ([' '] ++ entry.tail)) ++ [] := by
      rw [List.append_nil]
      exact line
    obtain ⟨after, -, leads⟩ := @admits_line { text := entry.line } entry client before whole unset rfl
    have found := leads some trivial rfl
    rw [List.append_nil] at found
    exact found
  obtain ⟨found, matched⟩ := Option.isSome_iff_exists.mp goes
  obtain ⟨other, same, kept⟩ := client_of_entered word matched
  refine ⟨found, ?_, same ▸ kept⟩
  -- Entered before, the expression would find a longer client.
  have fails (first : Text) (char : Char) (others : Text) (split : before = first ++ char :: others) :
      expression.node.step { text := entry.line }
        ⟨.between ([] ++ first) (char :: others ++ (client.text ++ ' ' :: entry.tail)), unset⟩ some =
        none := by
    rw [List.nil_append, ← List.append_assoc]
    by_contra entered
    obtain ⟨earlier, matched⟩ := Option.ne_none_iff_exists'.mp entered
    have longer : first ++ (char :: others ++ client.text) = entry.host.text := by
      rw [← List.append_assoc, ← split, word]
    obtain ⟨other, same, -⟩ := client_of_entered longer matched
    have short := isClient.longest other ⟨first, same ▸ longer⟩
    rw [same, List.length_append, List.length_cons] at short
    omega
  have start : searched? { text := entry.line } =
      searchFrom (expression.node.step { text := entry.line })
      unset (before ++ (client.text ++ ' ' :: entry.tail))
      (.between [] (before ++ (client.text ++ ' ' :: entry.tail))) :=
    congrArg (fun after => searchFrom (expression.node.step { text := entry.line }) unset
      after (.between [] after)) line
  rw [start, searchFrom_append fails]
  exact searchFrom_of_step matched

/-- The client of a line is found, whatever stands before it in the first word. -/
theorem fields?_of_isClient {entry : Entry} {client : Host}
    (isClient : IsClient entry.host.text client) :
    ∃ fields, expression.fields? entry.line = some fields ∧
      Entries.get? "client_ip".toList fields = some client.text := by
  obtain ⟨found, searched, kept⟩ := searched?_of_isClient isClient
  exact fields?_of_searched searched kept

/-! ### Running a configuration -/

section Run

variable [Expr.CharacterNames] {passes : Nat} {compiler : Compiler} {configuration filter : Text}

theorem run_combined (enough : 3 ≤ passes) (reliable : Reliable .builtin passes compiler)
    (planned : (plan? configuration).value = some (filter, combined)) (clock : Time.Moment)
    (log : Text) :
    (Filter.run clock compiler log configuration).value.1 =
      .ok (finish clock filter (expression.fields? (Text.trim log))).value := by
  have declared : (pattern passes).expansion.fields.isEmpty = false := (read_expand enough).1
  have matched : (matchLine (pattern passes) (Text.trim log)).value =
      .ok (expression.fields? (Text.trim log)) := by
    have same : (pattern passes).match? (Text.trim log) = expression.fields? (Text.trim log) := rfl
    rw [matchLine, declared, Pattern.find_eq_match?, same]
    cases expression.fields? (Text.trim log) <;> rfl
  rw [run_value, planned]
  dsimp only
  rw [compile_combined enough reliable]
  show (matchLine (pattern passes) (Text.trim log)).value.map _ = _
  rw [matched]
  rfl

/-- **The client of a line.** Whatever a compiler of the built-in patterns has served, and whatever
the first word and the request of a line in the combined format are: if the word ends with a host,
then a configuration for the format that does not remove the client gives fields, and their client
is the longest such host. Whenever fields are given, their client is the whole word just where the
word is a host. -/
theorem client_of_run {passes : Nat} (enough : 3 ≤ passes) (cacheSize : Nat) (requests : List Request)
    {configuration filter : Text} (planned : (plan? configuration).value = some (filter, combined))
    (keeps : "client_ip".toList ∉ removals filter) (clock : Time.Moment) (entry : Entry) :
    let outcome := (Filter.run clock (served (.fresh .builtin passes cacheSize) requests) entry.line
      configuration).value.1
    (∀ host : Host, host.text <:+ entry.host.text →
      ∃ client fields, IsClient entry.host.text client ∧ outcome = .ok (some fields) ∧
        Entries.get? "client_ip".toList fields = some client.text) ∧
    ∀ fields, outcome = .ok (some fields) →
      (Entries.get? "client_ip".toList fields = some entry.host.text ↔
        ∃ host : Host, host.text = entry.host.text) := by
  intro outcome
  have ran : outcome = .ok (finish clock filter (expression.fields? entry.line)).value := by
    have ran := run_combined enough (reliable_served .builtin passes cacheSize requests) planned clock
      entry.line
    rw [entry.trim_line] at ran
    exact ran
  have given {client : Host} (isClient : IsClient entry.host.text client) : ∃ fields,
      outcome = .ok (some fields) ∧ Entries.get? "client_ip".toList fields = some client.text := by
    obtain ⟨matched, found, isFound⟩ := fields?_of_isClient isClient
    obtain ⟨fields, finished, same⟩ := @get?_finish clock filter matched _ (by decide) keeps
    refine ⟨fields, ?_, same.trans isFound⟩
    rw [ran, found, finished]
  refine ⟨fun host ends => ?_, fun fields gives => ⟨fun whole => ?_, fun ⟨host, whole⟩ => ?_⟩⟩
  · obtain ⟨client, isClient⟩ := exists_isClient ends
    obtain ⟨fields, gives, isGiven⟩ := given isClient
    exact ⟨client, fields, isClient, gives, isGiven⟩
  · rw [ran] at gives
    cases found : expression.fields? entry.line with
    | none =>
      rw [found] at gives
      cases gives
    | some matched =>
      obtain ⟨host, isHost⟩ := exists_host_of_fields? found
      obtain ⟨others, finished, same⟩ := @get?_finish clock filter matched _ (by decide) keeps
      rw [found, finished] at gives
      obtain rfl := Option.some.inj (Except.ok.inj gives)
      exact ⟨host, Option.some.inj ((same.trans isHost).symm.trans whole)⟩
  · have isClient : IsClient entry.host.text host :=
      ⟨whole ▸ List.suffix_rfl, fun other ends => whole ▸ ends.length_le⟩
    obtain ⟨others, gives', isGiven⟩ := given isClient
    rw [gives] at gives'
    obtain rfl := Option.some.inj (Except.ok.inj gives')
    rw [isGiven, whole]

end Run

/-- The filter of a configuration for the combined format alone. -/
def plainFilter : Text :=
  " grok \x7b match => \x7b \"message\" => \"%\x7bCOMBINEDAPACHELOG\x7d\" \x7d \x7d ".toList

/-- That configuration. -/
def plainConfiguration : Text :=
  "filter \x7b".toList ++ plainFilter ++ ['\x7d']

theorem plan?_plainConfiguration : (plan? plainConfiguration).value = some (plainFilter, combined) := by
  decide +kernel

theorem removals_plainFilter : removals plainFilter = [] := by
  decide +kernel

/-- An entry whose first word is an address with colons, and whose request is none. -/
def colons : Entry where
  host := ⟨"2001:db8::7".toList, by decide, List.all_eq_true.mp (by decide +kernel)⟩
  ident := ⟨['a'], by decide, List.all_eq_true.mp rfl⟩
  auth := ⟨['b'], by decide, List.all_eq_true.mp rfl⟩
  date :=
    { day := ⟨['2', '4'], by decide, List.all_eq_true.mp rfl⟩
      capital := 'A'
      small := ['p', 'r']
      isUpper_capital := by decide
      length_small := rfl
      isLower_small := List.all_eq_true.mp rfl
      year := ⟨['2', '0', '1', '7'], by decide, List.all_eq_true.mp rfl⟩
      hour := ⟨['2', '1'], by decide, List.all_eq_true.mp rfl⟩
      minute := ⟨['2', '2'], by decide, List.all_eq_true.mp rfl⟩
      second := ⟨['2', '3'], by decide, List.all_eq_true.mp rfl⟩
      sign := .plus
      offset := ⟨['0', '1', '0', '0'], by decide, List.all_eq_true.mp rfl⟩ }
  request := []
  request_sameLine := nofun
  code := ⟨none, .whole ⟨['4', '0', '4'], by decide, List.all_eq_true.mp rfl⟩⟩
  bytes := none
  referrer := []
  agent := []

/-- The last part of that address is all that is kept of it. -/
theorem client_of_run_colons : ∃ fields,
    (Filter.run ⟨⟨2026, 1, 1⟩, ⟨0, 0, 0, 0⟩, none⟩ (served (.fresh .builtin 10 256) [])
      "2001:db8::7 a b [24/Apr/2017:21:22:23 +0100] \"\" 404 - \"\" \"\"".toList
      plainConfiguration).value.1 = .ok (some fields) ∧
    Entries.get? "client_ip".toList fields = some "7".toList := by
  have line : colons.line =
      "2001:db8::7 a b [24/Apr/2017:21:22:23 +0100] \"\" 404 - \"\" \"\"".toList := by
    decide +kernel
  have keeps : "client_ip".toList ∉ removals plainFilter :=
    removals_plainFilter ▸ List.not_mem_nil
  let seven : Host := ⟨⟨'7', [], by decide, nofun⟩, []⟩
  obtain ⟨given, -⟩ := client_of_run (show 3 ≤ 10 by decide) 256 [] plan?_plainConfiguration keeps
    ⟨⟨2026, 1, 1⟩, ⟨0, 0, 0, 0⟩, none⟩ colons
  obtain ⟨client, fields, isClient, gives, isGiven⟩ := given seven ⟨"2001:db8::".toList, rfl⟩
  have short : client.text.length ≤ 1 := by
    by_contra long
    have colon : ":7".toList <:+ client.text :=
      List.suffix_of_suffix_length_le ⟨"2001:db8:".toList, rfl⟩ isClient.isSuffix (Nat.not_le.mp long)
    exact absurd (isHostChar_of_mem_text (colon.subset List.mem_cons_self)) (by decide)
  have isSeven : client.text = "7".toList :=
    (List.suffix_of_suffix_length_le isClient.isSuffix ⟨"2001:db8::".toList, rfl⟩ short).eq_of_length_le
      (isClient.longest seven ⟨"2001:db8::".toList, rfl⟩)
  rw [← line]
  exact ⟨fields, gives, isSeven ▸ isGiven⟩

/-- What is kept as the client need not be the whole first word. -/
theorem client_not_whole : ¬ ∀ (entry : Entry) (fields : Fields),
    (Filter.run ⟨⟨2026, 1, 1⟩, ⟨0, 0, 0, 0⟩, none⟩ .default entry.line plainConfiguration).value.1 =
      .ok (some fields) →
    Entries.get? "client_ip".toList fields = some entry.host.text := by
  intro always
  have kept : (expression.fields? colons.line).bind (Entries.get? "client_ip".toList) =
      some "7".toList := by
    decide +kernel
  obtain ⟨matched, found, isFound⟩ := Option.bind_eq_some_iff.mp kept
  have keeps : "client_ip".toList ∉ removals plainFilter :=
    removals_plainFilter ▸ List.not_mem_nil
  obtain ⟨fields, finished, same⟩ :=
    @get?_finish ⟨⟨2026, 1, 1⟩, ⟨0, 0, 0, 0⟩, none⟩ plainFilter matched _ (by decide) keeps
  have reliable : Reliable .builtin Compiler.defaultPasses .default :=
    reliable_served .builtin Compiler.defaultPasses Compiler.defaultCacheSize []
  have ran := run_combined (by decide) reliable plan?_plainConfiguration
    ⟨⟨2026, 1, 1⟩, ⟨0, 0, 0, 0⟩, none⟩ colons.line
  rw [colons.trim_line, found, finished] at ran
  have whole := always colons fields ran
  rw [same, isFound] at whole
  exact absurd (Option.some.inj whole) (by decide)

end GrokEvents.AccessLog
