/-
**Checking and parsing agree.**

One command judges a configuration, another one runs it on a line. The first looks for the section of a
date, the second for a whole date clause; but the body of a filter is balanced, so that a date clause
always stands in a section that is closed.

* `parse_value`, `check_value`: how the two commands end, by what they read.
* `judge_of_plan?`: a configuration that a run has a plan for is judged to be usable.
* `useless_of_check`: where checking fails, a run has no plan.
* `check_of_parse`: what the one command says of a configuration that the other one has used.
-/

import GrokEvents.CommandLine.Report
import GrokEvents.Yaml.Document
import GrokEvents.Proofs.Filter.Nesting
import GrokEvents.Proofs.Filter.Provenance

namespace GrokEvents.CommandLine

open Filter Grok

variable {load : Loader} {clock : Time.Moment} {files : Files}
  {log configuration settings : Text} {explain : Bool}

/-! ### Endings -/

/-- The ending of a command by what its request is met with. -/
def endingOf : Except Expr.Fault Answer → Ending
  | .error fault => .breakdown (.expression fault)
  | .ok answer => .lines (if answer.isSuccess then 0 else 1) [Json.print answer.body]

/-- The ending of a command that reads on once something was read. -/
def endingAfter {Value : Type} (read : Except Ending Value) (onward : Value → Ending) : Ending :=
  match read with
  | .error ending => ending
  | .ok value => onward value

/-- The first of two files that is not there. -/
def absent? (files : Files) (log configuration : Text) : Option Text :=
  [File.normalize log, File.normalize configuration].find? fun name => !File.exists? files name

/-- An ending other than a report with the exit code of success. -/
def Ending.Fails (ending : Ending) : Prop :=
  ∀ output, ending ≠ .report ⟨0, output⟩

theorem fails_lines (lines : List Text) : (Ending.lines 1 lines).Fails :=
  nofun

/-- A file that cannot be read breaks a command down. -/
theorem exists_of_textOf_error {name : Text} {ending : Ending}
    (unread : textOf files name = .error ending) : ∃ fault, ending = .breakdown fault := by
  unfold textOf at unread
  cases opened : files name with
  | error fault =>
    rw [opened] at unread
    exact ⟨_, (Except.error.inj unread).symm⟩
  | ok bytes =>
    rw [opened] at unread
    have unread : (File.text bytes).mapError (fun fault => .breakdown (.undecodable fault)) =
      .error ending := unread
    cases decoded : File.text bytes with
    | error fault =>
      rw [decoded] at unread
      exact ⟨_, (Except.error.inj unread).symm⟩
    | ok text =>
      rw [decoded] at unread
      cases unread

theorem fails_of_textOf {name : Text} {ending : Ending} (unread : textOf files name = .error ending) :
    ending.Fails := by
  obtain ⟨fault, rfl⟩ := exists_of_textOf_error unread
  exact nofun

theorem fails_of_settingsOf {ending : Ending}
    (refused : settingsOf load files settings = .error ending) :
    ending.Fails := by
  unfold settingsOf at refused
  split at refused
  · cases refused
  · dsimp only at refused
    cases read : Settings.ofFile load files (File.normalize settings) with
    | ok given =>
      rw [read] at refused
      cases refused
    | error error =>
      rw [read] at refused
      obtain rfl := Except.error.inj refused
      dsimp only
      split
      · exact nofun
      · exact fails_lines _

/-- A command that succeeds has read what it asked for. -/
theorem exists_of_endingAfter {Value : Type} {read : Except Ending Value} {onward : Value → Ending}
    {output : Text} (failing : ∀ ending, read = .error ending → ending.Fails)
    (succeeded : endingAfter read onward = .report ⟨0, output⟩) :
    ∃ value, read = .ok value ∧ onward value = .report ⟨0, output⟩ := by
  cases read with
  | error ending => exact absurd succeeded (failing ending rfl output)
  | ok value => exact ⟨value, rfl, succeeded⟩

/-- A file whose text is read is there. -/
theorem exists_of_textOf {name text : Text} (isRead : textOf files name = .ok text) :
    File.exists? files name = true := by
  unfold textOf at isRead
  unfold File.exists?
  cases opened : files name with
  | error fault =>
    rw [opened] at isRead
    cases isRead
  | ok bytes => rfl

/-! ### Judgements -/

variable {text filter source : Text}

/-- A configuration that a run has a plan for is judged to be usable, and its filter is balanced. -/
theorem judge_of_plan? (plan : (plan? text).value = some (filter, source)) :
    Balanced filter ∧ judge (Text.trim text) =
      .lines 0 ["filter: ok".toList, "grok: ".toList ++ source, sectionLine filter "date",
        sectionLine filter "mutate"] := by
  unfold plan? at plan
  split at plan
  · cases plan
  · rename_i body isFilter
    split at plan
    · cases plan
    · rename_i grok isGrok
      split at plan
      · cases plan
      · rename_i pattern isPattern
        obtain ⟨rfl, rfl⟩ := Prod.mk.inj (Option.some.inj plan)
        refine ⟨balanced_of_section? isFilter, ?_⟩
        unfold judge
        simp only [isFilter, isGrok, isPattern]

/-- A date clause of a balanced filter is judged to be there. -/
theorem sectionLine_date {clause : DateClause} (balanced : Balanced filter)
    (found : dateClause? filter = some clause) : sectionLine filter "date" = "date: ok".toList := by
  rw [sectionLine, if_pos (date_of_dateClause? balanced found)]
  rfl

section Engine

variable [Expr.Engine]

/-! ### How commands end -/

theorem parse_value (load : Loader) (clock : Time.Moment) (files : Files)
    (log configuration settings : Text) (explain : Bool) :
    ((Command.parse log configuration settings explain).ending load clock files).value =
      match absent? files log configuration with
      | some name => .lines 1 ["Error: file not found: ".toList ++ name]
      | none => endingAfter (settingsOf load files settings) fun given =>
          endingAfter (textOf files (File.normalize log)) fun line =>
            endingAfter (textOf files (File.normalize configuration)) fun text =>
              endingOf (transform clock given.compiler (some line) (some text) explain).value.1 := by
  unfold Command.ending reportParse absent?
  dsimp only
  cases List.find? (fun name => !File.exists? files name)
      [File.normalize log, File.normalize configuration] with
  | some name => rfl
  | none =>
    cases settingsOf load files settings with
    | error ending => rfl
    | ok given =>
      cases textOf files (File.normalize log) with
      | error ending => rfl
      | ok line =>
        cases textOf files (File.normalize configuration) with
        | error ending => rfl
        | ok text =>
          show Logged.value (_ >>= _) =
            endingOf (transform clock given.compiler (some line) (some text) explain).value.1
          rw [Logged.value_bind]
          rcases (transform clock given.compiler (some line) (some text) explain).value.1 with
            fault | answer <;> rfl

theorem check_value (load : Loader) (clock : Time.Moment) (files : Files) (configuration : Text) :
    ((Command.check configuration).ending load clock files).value =
      if File.exists? files (File.normalize configuration) then
        endingAfter (textOf files (File.normalize configuration)) fun text => judge (Text.trim text)
      else .lines 1 ["Error: config file not found: ".toList ++ File.normalize configuration] := by
  unfold Command.ending reportCheck
  dsimp only
  cases File.exists? files (File.normalize configuration) with
  | false => rfl
  | true =>
    cases textOf files (File.normalize configuration) with
    | error ending => rfl
    | ok text => rfl

/-! ### Requests -/

variable {compiler : Compiler} {line : Text} {fields : Fields}

/-- What is answered with fields is answered about the fields of a run. -/
theorem run_of_transformed {event : Json} {explanation : Option Text}
    (answered : (transform clock compiler (some line) (some text) explain).value.1 =
      .ok (.transformed fields event explanation)) :
    (Filter.run clock compiler line text).value.1 = .ok (some fields) ∧
      (transform clock compiler (some line) (some text) explain).value.2 =
        (Filter.run clock compiler line text).value.2 := by
  rw [transform_value] at answered
  rw [transform_compiler]
  split at answered
  · rename_i log configuration isLine isText
    obtain rfl := Option.some.inj (Option.filter_eq_some_iff.mp isLine).1
    obtain rfl := Option.some.inj (Option.filter_eq_some_iff.mp isText).1
    refine ⟨?_, rfl⟩
    rcases ran : (Filter.run clock compiler line text).value.1 with fault | found
    · rw [ran] at answered
      cases answered
    · rw [ran] at answered
      cases found with
      | none => cases Except.ok.inj answered
      | some found =>
        obtain ⟨rfl, -, -⟩ := Answer.transformed.inj (Except.ok.inj answered)
        rfl
  · cases answered

/-- A compiler that has kept nothing yet keeps the one source that it compiles. -/
theorem keys_compile {pattern : Pattern} (empty : compiler.cache.entries = [])
    (room : 0 < compiler.cache.capacity) (compiled : (compiler.compile source).value.1 = .ok pattern) :
    Entries.keys (compiler.compile source).value.2.cache.entries = [source] := by
  have missing : compiler.cache.get? source = none := by
    rw [Cache.get?, empty]
    rfl
  have alone (value : Pattern) :
      Entries.keys (compiler.cache.miss.remember source value).entries = [source] := by
    obtain ⟨size, capacity⟩ := Nat.exists_eq_add_one.mpr room
    simp [Cache.remember, Cache.miss, empty, capacity, Entries.erase, Entries.keys]
  unfold Compiler.compile at compiled ⊢
  rw [missing] at compiled ⊢
  dsimp only at compiled ⊢
  rw [Logged.value_bind] at compiled ⊢
  cases outcome : (Pattern.compile compiler.registry compiler.passes source).value with
  | error fault =>
    rw [outcome] at compiled
    cases compiled
  | ok found => exact alone found

/-- A run that has found fields has handed the source of its plan to the compiler, and no other. -/
theorem keys_of_run (empty : compiler.cache.entries = []) (room : 0 < compiler.cache.capacity)
    (ran : (Filter.run clock compiler line text).value.1 = .ok (some fields)) :
    ∃ filter source, (plan? text).value = some (filter, source) ∧
      Entries.keys (Filter.run clock compiler line text).value.2.cache.entries = [source] := by
  rw [run_value] at ran
  rw [run_compiler]
  rcases plan : (plan? text).value with _ | ⟨filter, source⟩
  · rw [plan] at ran
    cases ran
  · rw [plan] at ran
    refine ⟨filter, source, rfl, ?_⟩
    dsimp only at ran ⊢
    cases compiled : (compiler.compile source).value.1 with
    | error fault =>
      rw [compiled] at ran
      cases ran
    | ok pattern => exact keys_compile empty room compiled

/-! ### Agreement -/

/-- What a parse that has succeeded has read, and what it was answered. -/
theorem exists_of_parse {output : Text}
    (parsed : ((Command.parse log configuration settings explain).ending load clock files).value =
      .report ⟨0, output⟩) :
    ∃ given line text fields event explanation, settingsOf load files settings = .ok given ∧
      textOf files (File.normalize log) = .ok line ∧
      textOf files (File.normalize configuration) = .ok text ∧
      (transform clock given.compiler (some line) (some text) explain).value.1 =
        .ok (.transformed fields event explanation) ∧
      output = (Answer.transformed fields event explanation).body.print ++ ['\n'] := by
  rw [parse_value] at parsed
  split at parsed
  · exact absurd parsed (fails_lines _ output)
  · obtain ⟨given, isGiven, parsed⟩ := exists_of_endingAfter (fun _ => fails_of_settingsOf) parsed
    obtain ⟨line, isLine, parsed⟩ := exists_of_endingAfter (fun _ => fails_of_textOf) parsed
    obtain ⟨text, isText, parsed⟩ := exists_of_endingAfter (fun _ => fails_of_textOf) parsed
    cases answered : (transform clock given.compiler (some line) (some text) explain).value.1 with
    | error fault =>
      rw [answered] at parsed
      cases parsed
    | ok answer =>
      rw [answered] at parsed
      cases answer with
      | missingInput => cases parsed
      | unparsed => cases parsed
      | transformed fields event explanation =>
        have printed : _ = output := congrArg Report.output (Ending.report.inj parsed)
        refine ⟨given, line, text, fields, event, explanation, isGiven, isLine, isText, answered, ?_⟩
        rw [← printed]
        exact List.append_nil _

/-- A parse with a configuration that is not there fails. -/
theorem report_of_absent (absent : File.exists? files (File.normalize configuration) = false)
    (load : Loader) (log settings : Text) (clock : Time.Moment) (explain : Bool) :
    ∃ output, ((Command.parse log configuration settings explain).ending load clock files).value =
      .report ⟨1, output⟩ := by
  have missing : ∃ name, absent? files log configuration = some name := by
    apply Option.isSome_iff_exists.mp
    rw [absent?, List.find?_isSome]
    exact ⟨File.normalize configuration, by simp, by simp [absent]⟩
  obtain ⟨name, missing⟩ := missing
  rw [parse_value, missing]
  exact ⟨_, rfl⟩

/-- A parse of a configuration that a run has no plan for fails. -/
theorem report_of_no_plan? {given : Settings} (isGiven : settingsOf load files settings = .ok given)
    (isLine : textOf files (File.normalize log) = .ok line)
    (isText : textOf files (File.normalize configuration) = .ok text)
    (plan : (plan? text).value = none) :
    ∃ output, ((Command.parse log configuration settings explain).ending load clock files).value =
      .report ⟨1, output⟩ := by
  have there : absent? files log configuration = none := by
    simp [absent?, exists_of_textOf isLine, exists_of_textOf isText]
  have answered : ∃ answer, (transform clock given.compiler (some line) (some text)
      explain).value.1 = .ok answer ∧ answer.isSuccess = false := by
    rw [transform_value]
    split
    · rename_i isConfiguration
      obtain rfl := Option.some.inj (Option.filter_eq_some_iff.mp isConfiguration).1
      rw [run_value, plan]
      exact ⟨_, rfl, rfl⟩
    · exact ⟨_, rfl, rfl⟩
  obtain ⟨answer, answered, failed⟩ := answered
  rw [parse_value, there, isGiven, isLine, isText]
  simp only [endingAfter, answered, endingOf, failed]
  exact ⟨_, rfl⟩

/-- Where checking a configuration fails, it is not there or a run has no plan for it. -/
theorem useless_of_check {output : Text}
    (failed : ((Command.check configuration).ending load clock files).value = .report ⟨1, output⟩) :
    File.exists? files (File.normalize configuration) = false ∨
      ∃ text, textOf files (File.normalize configuration) = .ok text ∧ (plan? text).value = none := by
  rw [check_value] at failed
  split at failed
  · right
    cases isText : textOf files (File.normalize configuration) with
    | error ending =>
      obtain ⟨fault, rfl⟩ := exists_of_textOf_error isText
      rw [isText] at failed
      cases failed
    | ok text =>
      rw [isText] at failed
      have judged : judge (Text.trim text) = .report ⟨1, output⟩ := failed
      refine ⟨text, rfl, ?_⟩
      rcases plan : (plan? text).value with _ | ⟨filter, source⟩
      · rfl
      · rw [(judge_of_plan? plan).2] at judged
        cases judged
  · rename_i absent
    exact .inl (Bool.eq_false_iff.mpr absent)

end Engine

/-- **Checking and parsing agree**, whatever loads the settings. If parsing with a configuration
succeeds, then checking the same configuration does; it prints as the pattern the one source that
the parse has handed to its compiler, and that there is a date if the parsed fields hold a
timestamp. And if checking a configuration fails, then so does parsing with it, whatever the line
and the settings are. -/
theorem check_of_parse [Expr.CharacterNames] (load : Loader) (clock other : Time.Moment) (files : Files)
    (log configuration settings : Text) (explain : Bool) :
    (∀ output, ((Command.parse log configuration settings explain).ending load clock files).value =
        .report ⟨0, output⟩ →
      ∃ given line text fields event explanation source date mutate,
        settingsOf load files settings = .ok given ∧ textOf files (File.normalize log) = .ok line ∧
        textOf files (File.normalize configuration) = .ok text ∧
        (transform clock given.compiler (some line) (some text) explain).value.1 =
          .ok (.transformed fields event explanation) ∧
        output = (Answer.transformed fields event explanation).body.print ++ ['\n'] ∧
        Entries.keys (transform clock given.compiler (some line) (some text)
          explain).value.2.cache.entries = [source] ∧
        ((Command.check configuration).ending load other files).value =
          .lines 0 ["filter: ok".toList, "grok: ".toList ++ source, date, mutate] ∧
        (timestampField ∈ Entries.keys fields → date = "date: ok".toList)) ∧
    ∀ output, ((Command.check configuration).ending load other files).value = .report ⟨1, output⟩ →
      ((Command.parse log configuration settings explain).ending load clock files).value.Fails ∧
      ∀ given line, settingsOf load files settings = .ok given →
        textOf files (File.normalize log) = .ok line →
        ∃ output, ((Command.parse log configuration settings explain).ending load clock files).value =
          .report ⟨1, output⟩ := by
  constructor
  · intro output parsed
    obtain ⟨given, line, text, fields, event, explanation, isGiven, isLine, isText, answered,
      printed⟩ :=
      exists_of_parse parsed
    obtain ⟨ran, left⟩ := run_of_transformed answered
    have room : 0 < Compiler.defaultCacheSize := by decide
    obtain ⟨filter, source, plan, asked⟩ := keys_of_run rfl room ran
    obtain ⟨balanced, judged⟩ := judge_of_plan? plan
    refine ⟨given, line, text, fields, event, explanation, source, sectionLine filter "date",
      sectionLine filter "mutate", isGiven, isLine, isText, answered, printed, left ▸ asked, ?_, ?_⟩
    · rw [check_value, if_pos (exists_of_textOf isText), isText, endingAfter, judged]
    · intro stamped
      obtain ⟨body, pattern, compiled, matched, samePlan, -, -, provenance⟩ :=
        provenance_of_run given.registry given.passes Compiler.defaultCacheSize [] clock ran
      obtain ⟨rfl, -⟩ := Prod.mk.inj (Option.some.inj (plan.symm.trans samePlan))
      obtain ⟨⟨clause, value, dated, -⟩, -⟩ := provenance.stamped.mp stamped
      exact sectionLine_date balanced dated
  · intro output failed
    rcases useless_of_check failed with absent | ⟨text, isText, plan⟩
    · obtain ⟨printed, ended⟩ := report_of_absent absent load log settings clock explain
      refine ⟨?_, fun given line _ _ => ⟨printed, ended⟩⟩
      rw [ended]
      exact nofun
    · refine ⟨?_, fun given line isGiven isLine => report_of_no_plan? isGiven isLine isText plan⟩
      intro printed parsed
      obtain ⟨given, line, found, fields, event, explanation, -, -, isFound, answered, -⟩ :=
        exists_of_parse parsed
      obtain rfl := Except.ok.inj (isText.symm.trans isFound)
      have ran := (run_of_transformed answered).1
      rw [run_value, plan] at ran
      cases ran

/-- The exit code of a command that ends in a report. -/
def Ending.exitCode? : Ending → Option Nat
  | .report printed => some printed.exitCode
  | .breakdown _ => none

theorem exists_report {ending : Ending} {code : Nat} (exits : ending.exitCode? = some code) :
    ∃ output, ending = .report ⟨code, output⟩ := by
  cases ending with
  | report report => exact ⟨report.output, by rw [← Option.some.inj exits]⟩
  | breakdown fault => cases exits

def dayClock : Time.Moment :=
  ⟨⟨2026, 1, 1⟩, ⟨0, 0, 0, 0⟩, none⟩

def dayLine : Text :=
  "a 1\n".toList

/-- A configuration with a date clause. -/
def dayConfiguration : Text :=
  ["filter \x7b date\x7b match => [", "\"day\", \"d\"] \x7d grok \x7b ", "match => \x7b \"message\" ",
    "=> \"%\x7bDATA:x\x7d (?P<day>.*)\" ", "\x7d \x7d \x7d"].flatMap String.toList

/-- The line, the configuration, and one that is never closed. -/
def dayFiles : Files
  | ['l', 'o', 'g'] => .ok (dayLine.map Char.toNat)
  | ['f', 'u', 'l', 'l'] => .ok (dayConfiguration.map Char.toNat)
  | ['o', 'p', 'e', 'n'] => .ok ("filter \x7b grok \x7b \x7d".toList.map Char.toNat)
  | _ => .error .missing

/-- The first configuration is parsed with and judged to have a date, the second one fails for both. -/
theorem check_of_parse_dayFiles :
    (∃ output mutate,
      ((Command.parse "log".toList "full".toList [] false).ending Yaml.load dayClock dayFiles).value =
        .report ⟨0, output⟩ ∧
      ((Command.check "full".toList).ending Yaml.load dayClock dayFiles).value =
        .lines 0 ["filter: ok".toList, "grok: %\x7bDATA:x\x7d (?P<day>.*)".toList, "date: ok".toList,
          mutate]) ∧
    ∃ judged output,
      ((Command.check "open".toList).ending Yaml.load dayClock dayFiles).value = .report ⟨1, judged⟩ ∧
      ((Command.parse "log".toList "open".toList [] false).ending Yaml.load dayClock dayFiles).value =
        .report ⟨1, output⟩ := by
  have read (name line text : Text) (isLine : textOf dayFiles name = .ok line)
      (known : (textOf dayFiles name).toOption = some text) : line = text := by
    rw [isLine] at known
    exact Option.some.inj known
  constructor
  · have exits : ((Command.parse "log".toList "full".toList [] false).ending Yaml.load dayClock
        dayFiles).value.exitCode? = some 0 := by
      decide +kernel
    obtain ⟨output, parsed⟩ := exists_report exits
    obtain ⟨given, line, text, fields, event, explanation, source, date, mutate, isGiven, isLine,
      isText,
      answered, -, asked, checked, dated⟩ := (check_of_parse Yaml.load dayClock dayClock dayFiles
        "log".toList "full".toList [] false).1 output parsed
    obtain rfl : Settings.default = given := Except.ok.inj isGiven
    obtain rfl := read _ _ dayLine isLine (by decide +kernel)
    obtain rfl := read _ _ dayConfiguration isText (by decide +kernel)
    have one : Entries.keys (transform dayClock Settings.default.compiler (some dayLine)
        (some dayConfiguration) false).value.2.cache.entries =
          ["%\x7bDATA:x\x7d (?P<day>.*)".toList] := by
      decide +kernel
    obtain rfl := List.head_eq_of_cons_eq (one.symm.trans asked)
    have names : (Filter.run dayClock Settings.default.compiler dayLine
        dayConfiguration).value.1.toOption.map (Option.map Entries.keys) =
          some (some ["x".toList, "day".toList, timestampField]) := by
      decide +kernel
    rw [(run_of_transformed answered).1] at names
    have names : Entries.keys fields = ["x".toList, "day".toList, timestampField] :=
      Option.some.inj (Option.some.inj names)
    have stamped : timestampField ∈ Entries.keys fields := by
      rw [names]
      decide
    obtain rfl := dated stamped
    exact ⟨output, mutate, parsed, checked⟩
  · have exits : ((Command.check "open".toList).ending Yaml.load dayClock
        dayFiles).value.exitCode? = some 1 := by
      decide +kernel
    obtain ⟨judged, checked⟩ := exists_report exits
    obtain ⟨output, parsed⟩ := ((check_of_parse Yaml.load dayClock dayClock dayFiles "log".toList
      "open".toList [] false).2 judged checked).2 .default dayLine rfl (by rfl)
    exact ⟨judged, output, checked, parsed⟩

end GrokEvents.CommandLine
