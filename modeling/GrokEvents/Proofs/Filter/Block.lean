/-
**Written blocks.**

The blocks of a filter as they are written: a `grok` block with an escaped pattern, a `date` block
with a field and a format, a `mutate` block with a list of names.

* `passed_listed`: a list of names holds no clause.
* `Source.passed_dateAt?`, `Source.passed_removalAt?`: neither does an escaped pattern, whatever its
  text looks like.
* `messagePattern?_written`, `dateAt?_written`, `removalAt?_written`: each clause is read back from its
  own block.
-/

import GrokEvents.Text.Alphanumeric
import GrokEvents.Proofs.Filter.Decoding
import GrokEvents.Proofs.Filter.Passing

namespace GrokEvents.Filter

open Text

/-! ### Names -/

/-- A letter or digit, or one of the signs that names and formats are made of. -/
def isLabelChar (char : Char) : Bool :=
  isAlphanumeric char || "_@.-/: ".toList.contains char

/-- A name or a format that can stand between double quotes. -/
structure Label where
  text : Text
  text_ne_nil : text ≠ []
  plain : ∀ char ∈ text, isLabelChar char = true

/-- A name between double quotes. -/
def Label.quoted (label : Label) : Text :=
  '"' :: label.text ++ ['"']

/-- Names between double quotes, with commas between them. -/
def listed (labels : List Label) : Text :=
  join ", ".toList (labels.map Label.quoted)

/-- A character that occurs in lists of names. -/
def isListChar (char : Char) : Bool :=
  isLabelChar char || char == '"' || char == ','

theorem Label.not_mem_text {label : Label} {char : Char} (other : isLabelChar char = false) :
    char ∉ label.text := by
  intro member
  rw [label.plain char member] at other
  cases other

theorem isListChar_of_mem_quoted {label : Label} {char : Char} (member : char ∈ label.quoted) :
    isListChar char = true := by
  rw [Label.quoted, List.cons_append, List.mem_cons, List.mem_append, List.mem_singleton] at member
  rcases member with rfl | inside | rfl
  · decide +kernel
  · simp [isListChar, label.plain char inside]
  · decide +kernel

theorem isListChar_of_mem_listed {char : Char} :
    ∀ {labels : List Label}, char ∈ listed labels → isListChar char = true
  | [], member => absurd member List.not_mem_nil
  | [_], member => isListChar_of_mem_quoted member
  | first :: second :: rest, member => by
    have member : char ∈ first.quoted ++ ", ".toList ++ listed (second :: rest) := member
    rw [List.mem_append, List.mem_append] at member
    rcases member with (inFirst | inComma) | inRest
    · exact isListChar_of_mem_quoted inFirst
    · have comma : char = ',' ∨ char = ' ' := by simpa using inComma
      rcases comma with rfl | rfl <;> decide +kernel
    · exact isListChar_of_mem_listed inRest

theorem not_mem_listed {labels : List Label} {char : Char} (other : isListChar char = false) :
    char ∉ listed labels := by
  intro member
  rw [isListChar_of_mem_listed member] at other
  cases other

theorem getLast?_listed : ∀ {labels : List Label}, labels ≠ [] → (listed labels).getLast? = some '"'
  | [], nonempty => absurd rfl nonempty
  | [label], _ => by
    show label.quoted.getLast? = some '"'
    rw [Label.quoted, List.getLast?_concat]
  | first :: second :: rest, _ => by
    show (first.quoted ++ ", ".toList ++ listed (second :: rest)).getLast? = some '"'
    rw [List.getLast?_append, getLast?_listed (List.cons_ne_nil second rest), Option.some_or]

/-- A list of names holds nothing that a section or an arrow could begin with. -/
theorem passed_listed {Value : Type} {answer? : Text → Option Value} {keyword : Text} {next : Char}
    {labels : List Label} (asks : AsksFor answer? keyword next) (nonempty : labels ≠ [])
    (other : isListChar next = false) (unquoted : '"' ∉ keyword) (rest : Text) :
    Passed answer? (listed labels) rest :=
  passed_of_barrier asks (not_mem_listed other) (getLast?_listed nonempty) unquoted rfl rest

theorem quotedAt?_quoted (label : Label) (rest : Text) :
    quotedAt? (label.quoted ++ rest) = some (label.text, rest) := by
  have unquoted : '"' ∉ label.text := label.not_mem_text (by decide +kernel)
  show upTo? '"' (label.text ++ ['"'] ++ rest) = some (label.text, rest)
  rw [List.append_assoc, List.singleton_append]
  exact upTo?_of_absent unquoted label.text_ne_nil rest

/-- The names of a list are read back from between their quotes. -/
theorem quotedTextsFrom_listed :
    ∀ labels : List Label, quotedTextsFrom 0 (listed labels) = labels.map Label.text := by
  -- Past the opening quote of a name, its other characters are skipped.
  have skipped (text rest : Text) : quotedTextsFrom text.length (text ++ rest) =
      quotedTextsFrom 0 rest := by
    induction text with
    | nil => rfl
    | cons char text ih =>
      rw [List.cons_append, List.length_cons, quotedTextsFrom]
      exact ih
  have first (label : Label) (rest : Text) :
      quotedTextsFrom 0 (label.quoted ++ rest) = label.text :: quotedTextsFrom 0 rest := by
    have split : label.quoted ++ rest = '"' :: (label.text ++ ['"'] ++ rest) := rfl
    have here : quotedAt? ('"' :: (label.text ++ ['"'] ++ rest)) = some (label.text, rest) :=
      quotedAt?_quoted label rest
    rw [split, quotedTextsFrom, here]
    have past := skipped (label.text ++ ['"']) rest
    rw [List.length_append] at past
    exact congrArg (label.text :: ·) past
  intro labels
  induction labels with
  | nil => rfl
  | cons label labels ih =>
    cases labels with
    | nil =>
      have alone := first label []
      rw [List.append_nil] at alone
      exact alone
    | cons next labels =>
      show quotedTextsFrom 0 (label.quoted ++ ", ".toList ++ listed (next :: labels)) = _
      rw [List.append_assoc, first, List.map_cons, ← ih]
      rfl

/-! ### What the clauses ask for -/

theorem asksFor_dateAt? : AsksFor dateAt? "date".toList '{' := by
  apply asksFor_of_afterBlanks?
  intro text found answered
  obtain ⟨named, isNamed, afterName⟩ := Option.bind_eq_some_iff.mp answered
  obtain ⟨opened, isOpened, _⟩ := Option.bind_eq_some_iff.mp afterName
  exact ⟨named, opened, isNamed, isOpened⟩

theorem asksFor_datePairAt? : AsksFor datePairAt? "match".toList '=' := by
  apply asksFor_of_arrow?
  intro text found answered
  obtain ⟨rest, pointed, _⟩ := Option.bind_eq_some_iff.mp answered
  exact ⟨rest, pointed⟩

theorem asksFor_messageAt? : AsksFor messageAt? "\"message\"".toList '=' := by
  apply asksFor_of_arrow?
  intro text found answered
  obtain ⟨rest, pointed, _⟩ := Option.bind_eq_some_iff.mp answered
  exact ⟨rest, pointed⟩

theorem asksFor_removalAt? : AsksFor removalAt? "remove_field".toList '=' := by
  apply asksFor_of_arrow?
  intro text found answered
  obtain ⟨rest, pointed, _⟩ := Option.bind_eq_some_iff.mp answered
  exact ⟨rest, pointed⟩

/-- The pair of a date clause has a bracket right before a quote, and no closing brace before
that. -/
theorem exists_of_datePairAt? {text : Text} {found : DateClause}
    (answered : datePairAt? text = some found) :
    ∃ start rest, text = start ++ '"' :: rest ∧ ['[', '"'] <:+: start ++ ['"'] ∧ '}' ∉ start := by
  obtain ⟨bracketed, pointed, afterBracket⟩ := Option.bind_eq_some_iff.mp answered
  obtain ⟨quoted, isQuoted, _⟩ := Option.bind_eq_some_iff.mp afterBracket
  obtain ⟨first, second, rfl, firstBlank, secondBlank⟩ := exists_of_arrow? pointed
  have notBlank {blanks : Text} (blank : ∀ char ∈ blanks, isBlank char) : '}' ∉ blanks :=
    fun member => absurd (blank '}' member) (by decide)
  unfold quotedAt? at isQuoted
  split at isQuoted
  · rename_i rest
    refine ⟨"match".toList ++ first ++ "=>".toList ++ second ++ ['['], rest, by simp, ?_, ?_⟩
    · exact ⟨"match".toList ++ first ++ "=>".toList ++ second, [], by simp⟩
    · simp [notBlank firstBlank, notBlank secondBlank]
  · cases isQuoted

/-! ### Patterns -/

/-- A pattern that can stand in a `grok` block. -/
structure Source where
  text : Text
  text_ne_nil : text ≠ []
  clean : '\x00' ∉ text
  balanced : Balanced text
  noRemoval : ¬ "remove_field".toList <:+: text

namespace Source

/-- An escaped pattern holds no date clause: what it opens it closes, and until then no quote
stands right behind a bracket. -/
theorem passed_dateAt? (source : Source) (rest : Text) :
    Passed dateAt? (escape source.text) ('"' :: rest) := by
  intro ending isEnding _
  cases answered : dateAt? (ending ++ '"' :: rest) with
  | none => rfl
  | some found =>
    exfalso
    obtain ⟨named, isNamed, afterName⟩ := Option.bind_eq_some_iff.mp answered
    obtain ⟨opened, isOpened, last⟩ := Option.bind_eq_some_iff.mp afterName
    have split := List.append_eq_of_isPrefixOf?_eq_some isNamed
    obtain ⟨blanks, rfl, blank⟩ := exists_of_afterBlanks? isOpened
    have notBlank : '"' ∉ blanks := fun member => absurd (blank '"' member) (by decide)
    -- The keyword and the brace stand before the closing quote.
    obtain ⟨inside, rfl⟩ : "date".toList ++ (blanks ++ ['{']) <+: ending := by
      apply prefix_of_barrier '"' rest (by simp [notBlank])
      exact ⟨opened, by rw [List.append_assoc]; exact split⟩
    obtain rfl : inside ++ '"' :: rest = opened := by
      simpa using split.symm
    obtain ⟨before, whole⟩ := isEnding
    have closes : '}' ∈ inside := by
      have balanced := source.balanced.escape
      apply closing_mem_of_opening (before ++ "date".toList ++ blanks)
      rw [← whole] at balanced
      simpa using balanced
    -- The first closing brace is before the closing quote, and the pair is before that brace.
    obtain ⟨start, more, rfl, _⟩ := List.eq_append_cons_of_mem closes
    obtain ⟨passed, pair, cut, notPassed, isPair⟩ := exists_of_atLastInside? last
    obtain ⟨head, tail, rfl, bracket, notHead⟩ := exists_of_datePairAt? isPair
    have short : passed ++ (head ++ ['"']) <+: start := by
      apply prefix_of_barrier '}' (more ++ '"' :: rest)
        (by simp [notPassed, notHead])
      exact ⟨tail, by simpa using cut.symm⟩
    have within : ['[', '"'] <:+: escape source.text := by
      refine (bracket.trans (List.suffix_append passed _).isInfix).trans (short.isInfix.trans ?_)
      rw [← whole]
      exact ⟨before ++ ("date".toList ++ (blanks ++ ['{'])), '}' :: more, by simp⟩
    exact absurd (guard_of_infix_escape within) (by decide)

/-- An escaped pattern holds no removal list. -/
theorem passed_removalAt? (source : Source) (rest : Text) :
    Passed removalAt? (escape source.text) ('"' :: rest) := by
  intro ending isEnding _
  cases answered : removalAt? (ending ++ '"' :: rest) with
  | none => rfl
  | some found =>
    exfalso
    obtain ⟨blanks, more, split, _⟩ := asksFor_removalAt? _ found answered
    have inside : "remove_field".toList <+: ending := by
      apply prefix_of_barrier '"' rest (by decide)
      rw [split, List.append_assoc]
      exact List.prefix_append _ _
    exact source.noRemoval (infix_of_infix_escape (by decide) (by decide)
      (inside.isInfix.trans isEnding.isInfix))

/-- An escaped pattern in its quotes holds no message entry: the quotes inside it have backslashes
before them, and the one that ends it has no arrow behind it. -/
theorem passed_messageAt? (source : Source) (rest : Text) :
    Passed messageAt? ('"' :: escape source.text) ('"' :: ' ' :: '}' :: rest) := by
  intro ending isEnding _
  cases answered : messageAt? (ending ++ '"' :: ' ' :: '}' :: rest) with
  | none => rfl
  | some found =>
    exfalso
    obtain ⟨blanks, more, split, blank⟩ := asksFor_messageAt? _ found answered
    have notBlank : '}' ∉ blanks := fun member => absurd (blank '}' member) (by decide)
    have short : "\"message\"".toList ++ blanks ++ ['='] <+: ending ++ ['"'] ++ [' '] := by
      apply prefix_of_barrier '}' rest (by simp [notBlank])
      exact ⟨more, by simpa using split.symm⟩
    have inside : "\"message\"".toList ++ blanks ++ ['='] <+: ending := by
      rcases List.prefix_concat_iff.mp short with same | short
      · exact absurd (List.append_inj_right' same rfl) (by decide)
      · rcases List.prefix_concat_iff.mp short with same | short
        · exact absurd (List.append_inj_right' same rfl) (by decide)
        · exact short
    have within : ['e', '"'] <:+: '"' :: escape source.text := by
      refine List.IsInfix.trans ?_ (inside.isInfix.trans isEnding.isInfix)
      exact ⟨"\"messag".toList, blanks ++ ['='], by simp⟩
    rcases List.infix_cons_iff.mp within with atStart | within
    · exact absurd (List.cons_prefix_cons.mp atStart).1 (by decide)
    · exact absurd (guard_of_infix_escape within) (by decide)

end Source

/-! ### Clauses read back -/

theorem messageAt?_of_arrow {text rest inside : Text}
    (pointed : arrow? "\"message\"".toList ['"'] text = some rest)
    (quoted : escapedUpToQuote? rest = some inside) (nonempty : inside ≠ []) :
    messageAt? text = some inside := by
  unfold messageAt?
  rw [pointed, Option.bind_eq_bind, Option.bind_some, quoted, Option.bind_some,
    if_neg (by simpa using nonempty)]

theorem matchAt?_of_arrow {text rest : Text}
    (pointed : arrow? "match".toList ['\x7b'] text = some rest) :
    matchAt? text = atLastInside? messageAt? rest := by
  unfold matchAt?
  rw [pointed, Option.bind_eq_bind, Option.bind_some]

/-- The pattern of a `grok` block is read back from its body. -/
theorem messagePattern?_written (source : Source) :
    messagePattern? (" match => \x7b \"message\" => \"".toList ++ (escape source.text ++
      "\" \x7d ".toList)) = some source.text := by
  let ending : Text := escape source.text ++ "\" \x7d ".toList
  have entry : messageAt? ("\"message\" => \"".toList ++ ending) = some (escape source.text) :=
    messageAt?_of_arrow (arrow?_spaced (rfl : isBlank '"' = false) "\"message\"".toList [] ending)
      (escapedUpToQuote?_escape source.text " \x7d ".toList) (escape_ne_nil source.text_ne_nil)
  -- Behind the start of the entry there is no other one.
  have later : atLastInside? messageAt? ("message\" => ".toList ++ '"' :: ending) = none := by
    apply atLastInside?_of_passed
    · exact passed_of_clash asksFor_messageAt? (by decide) _
    · exact atLastInside?_of_passed (source.passed_messageAt? [' ']) rfl
  have inside : atLastInside? messageAt? (" \"message\" => \"".toList ++ ending) =
      some (escape source.text) :=
    atLastInside?_of_later (by decide) (atLastInside?_of_answer entry later)
  have here : matchAt? ("match => \x7b \"message\" => \"".toList ++ ending) =
      some (escape source.text) := by
    rw [← inside]
    exact matchAt?_of_arrow (arrow?_spaced (rfl : isBlank '\x7b' = false) "match".toList []
      (" \"message\" => \"".toList ++ ending))
  have first : atFirst? matchAt? (" match => \x7b \"message\" => \"".toList ++ ending) =
      some (escape source.text) :=
    (atFirst?_of_none rfl).trans (atFirst?_of_answer here)
  rw [messagePattern?, first]
  exact congrArg some (unescape_escape source.clean)

theorem datePairAt?_of_arrow {text opened afterField afterComma afterFormat : Text}
    {field format : Text} (pointed : arrow? "match".toList ['['] text = some opened)
    (first : quotedAt? opened = some (field, ',' :: afterField))
    (trimmed : trimStart afterField = afterComma)
    (second : quotedAt? afterComma = some (format, ']' :: afterFormat)) :
    datePairAt? text = some ⟨field, format⟩ := by
  unfold datePairAt?
  rw [pointed, Option.bind_eq_bind, Option.bind_some]
  simp [first, List.isPrefixOf?, trimmed, second]

theorem dateAt?_of_opening {text named opened : Text}
    (isNamed : "date".toList.isPrefixOf? text = some named)
    (isOpened : afterBlanks? ['\x7b'] named = some opened) :
    dateAt? text = atLastInside? datePairAt? opened := by
  unfold dateAt?
  rw [isNamed, Option.bind_eq_bind, Option.bind_some, isOpened, Option.bind_some]

/-- The field and the format of a `date` block are read back from it. -/
theorem dateAt?_written (field format : Label) (rest : Text) :
    dateAt? ("date \x7b match => [".toList ++ (listed [field, format] ++ ("] \x7d".toList ++ rest))) =
      some ⟨field.text, format.text⟩ := by
  let ending : Text := listed [field, format] ++ ("] \x7d".toList ++ rest)
  have pair : datePairAt? ("match => [".toList ++ ending) = some ⟨field.text, format.text⟩ := by
    have first : quotedAt? ending =
        some (field.text, ',' :: ' ' :: (format.quoted ++ ("] \x7d".toList ++ rest))) := by
      rw [← quotedAt?_quoted]
      show quotedAt? (field.quoted ++ ", ".toList ++ format.quoted ++ _) = _
      simp
    exact datePairAt?_of_arrow (arrow?_spaced (rfl : isBlank '[' = false) "match".toList [] ending)
      first rfl (quotedAt?_quoted format _)
  have later : atLastInside? datePairAt? ("atch => [".toList ++ ending) = none := by
    apply atLastInside?_of_passed
    · exact passed_of_clash asksFor_datePairAt? (by decide) _
    · apply atLastInside?_of_passed
      · exact passed_listed asksFor_datePairAt? (by simp) (by decide +kernel) (by decide) _
      · rfl
  have inside : atLastInside? datePairAt? (" match => [".toList ++ ending) =
      some ⟨field.text, format.text⟩ :=
    atLastInside?_of_later (by decide) (atLastInside?_of_answer pair later)
  rw [← inside]
  exact dateAt?_of_opening rfl
    (afterBlanks?_space (rfl : isBlank '\x7b' = false) [] (" match => [".toList ++ ending))

/-- The list of a `mutate` block is read back from it. -/
theorem removalAt?_written {labels : List Label} (nonempty : labels ≠ []) (rest : Text) :
    removalAt? ("remove_field => [".toList ++ (listed labels ++ ("] \x7d".toList ++ rest))) =
      some (listed labels) := by
  have unclosed : ']' ∉ listed labels := not_mem_listed (by decide +kernel)
  have something : listed labels ≠ [] := by
    intro empty
    have ends := getLast?_listed nonempty
    rw [empty] at ends
    cases ends
  have closed : upTo? ']' (listed labels ++ ("] \x7d".toList ++ rest)) =
      some (listed labels, " \x7d".toList ++ rest) :=
    upTo?_of_absent unclosed something _
  have pointed : arrow? "remove_field".toList ['['] ("remove_field => [".toList ++
      (listed labels ++ ("] \x7d".toList ++ rest))) =
      some (listed labels ++ ("] \x7d".toList ++ rest)) :=
    arrow?_spaced (rfl : isBlank '[' = false) "remove_field".toList [] _
  unfold removalAt?
  rw [pointed, Option.bind_eq_bind, Option.bind_some, closed]
  rfl

end GrokEvents.Filter
