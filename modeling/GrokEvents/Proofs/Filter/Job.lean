/-
**Jobs and the configurations that ask for them.**

A job is a pattern, perhaps a date clause and perhaps names to remove. It is written as a filter of
blocks, in any order, and what the configuration makes of a line is what the job makes of it.

* `grokSection_filterBody`, `dateClause?_filterBody`, `removals_filterBody`: what is found in a filter
  is what its blocks hold.
* `run_configuration`: running the configuration of a job, whatever the order of its blocks, has the
  outcome of the job itself.
-/

import GrokEvents.Filter.Fields
import GrokEvents.Proofs.Filter.Block

namespace GrokEvents.Filter

open Text Grok

/-! ### Blocks -/

/-- Names to remove, at least one. -/
structure Removal where
  names : List Label
  names_ne_nil : names ≠ []

/-- A block of a filter. -/
inductive Block where
  | grok (source : Source)
  | date (field format : Label)
  | mutate (removal : Removal)

namespace Block

/-- A block as it is written. -/
def write : Block → Text
  | .grok source =>
    "grok \x7b match => \x7b \"message\" => \"".toList ++
      (escape source.text ++ "\" \x7d \x7d".toList)
  | .date field format => "date \x7b match => [".toList ++ (listed [field, format] ++ "] \x7d".toList)
  | .mutate removal =>
    "mutate \x7b remove_field => [".toList ++ (listed removal.names ++ "] \x7d".toList)

/-- The pattern that a block holds. -/
def source? : Block → Option Source
  | .grok source => some source
  | _ => none

/-- The date clause that a block holds. -/
def clause? : Block → Option DateClause
  | .date field format => some ⟨field.text, format.text⟩
  | _ => none

/-- The names to remove that a block holds. -/
def removal? : Block → Option Removal
  | .mutate removal => some removal
  | _ => none

end Block

/-- The body of a filter with the given blocks. -/
def filterBody (blocks : List Block) : Text :=
  blocks.flatMap (fun block => ' ' :: block.write) ++ [' ']

/-- A configuration of one filter with the given blocks. -/
def configuration (blocks : List Block) : Text :=
  "filter \x7b".toList ++ filterBody blocks ++ ['\x7d']

theorem filterBody_cons (block : Block) (blocks : List Block) :
    filterBody (block :: blocks) = ' ' :: block.write ++ filterBody blocks := by
  rw [filterBody, List.flatMap_cons, List.append_assoc]
  rfl

/-! ### Braces -/

theorem Block.depthAfter?_write (block : Block) : depthAfter? 0 (' ' :: block.write) = some 0 := by
  have plain (labels : List Label) (depth : Nat) :
      depthAfter? depth (listed labels) = some depth :=
    depthAfter?_of_no_brace depth (not_mem_listed (by decide +kernel))
      (not_mem_listed (by decide +kernel))
  cases block with
  | grok source =>
    show depthAfter? 2 (escape source.text ++ "\" \x7d \x7d".toList) = some 0
    rw [depthAfter?_append, source.balanced.escape.depthAfter?]
    rfl
  | date field format =>
    show depthAfter? 1 (listed [field, format] ++ "] \x7d".toList) = some 0
    rw [depthAfter?_append, plain]
    rfl
  | mutate removal =>
    show depthAfter? 1 (listed removal.names ++ "] \x7d".toList) = some 0
    rw [depthAfter?_append, plain]
    rfl

theorem balanced_filterBody (blocks : List Block) : Balanced (filterBody blocks) := by
  rw [balanced_iff]
  induction blocks with
  | nil => rfl
  | cons block blocks ih =>
    rw [filterBody_cons, depthAfter?_append, block.depthAfter?_write]
    exact ih

theorem trim_configuration (blocks : List Block) :
    trim (configuration blocks) = configuration blocks :=
  trim_of_ends (by decide) (by decide) ("ilter \x7b".toList ++ filterBody blocks)

/-- The filter of a configuration is found. -/
theorem filter_of_configuration (blocks : List Block) : section? "filter".toList
    (trim (configuration blocks)) = some (filterBody blocks) := by
  have opened : afterOpening? "filter".toList (configuration blocks) =
      some (filterBody blocks ++ ['\x7d']) := by
    rw [afterOpening?_eq_atFirst?]
    exact atFirst?_of_answer (openingAt?_written "filter".toList (filterBody blocks ++ ['\x7d']))
  rw [trim_configuration, section?, opened, Option.bind_some]
  exact body?_of_balanced (balanced_filterBody blocks) []

/-! ### The clauses of a filter -/

section Around

variable {Value : Type} {answer? : Text → Option Value} {keyword : Text} {next : Char}

/-- A block around a list of names is passed over by what neither stands in the text before nor in
the text behind the list. -/
theorem passed_around {opening closing : Text} {labels : List Label}
    (asks : AsksFor answer? keyword next) (nonempty : labels ≠ []) (other : isListChar next = false)
    (unquoted : '"' ∉ keyword) (before : Clashes keyword opening) (behind : Clashes keyword closing)
    (rest : Text) : Passed answer? (opening ++ (listed labels ++ closing)) rest :=
  (passed_of_clash asks before _).append
    ((passed_listed asks nonempty other unquoted _).append (passed_of_clash asks behind _))

end Around

theorem passed_space {Value : Type} {answer? : Text → Option Value} {keyword : Text} {next : Char}
    (asks : AsksFor answer? keyword next) (clash : Clashes keyword [' ']) {region rest : Text}
    (passed : Passed answer? region rest) : Passed answer? (' ' :: region) rest :=
  (passed_of_clash asks clash (region ++ rest)).append passed

/-- The first date clause from a block on is the block's own, or else the first one behind it. -/
theorem atFirst?_dateAt?_block (block : Block) (rest : Text) :
    atFirst? dateAt? (' ' :: block.write ++ rest) =
      block.clause?.or (atFirst? dateAt? rest) := by
  cases block with
  | grok source =>
    apply atFirst?_of_passed
    apply passed_space asksFor_dateAt? (by decide)
    apply (passed_of_clash asksFor_dateAt? (by decide) _).append
    exact (source.passed_dateAt? _).append (passed_of_clash asksFor_dateAt? (by decide) rest)
  | date field format =>
    refine (atFirst?_of_none rfl).trans (atFirst?_of_answer ?_)
    show dateAt? (("date \x7b match => [".toList ++
      (listed [field, format] ++ "] \x7d".toList)) ++ rest) = _
    rw [List.append_assoc, List.append_assoc]
    exact dateAt?_written field format rest
  | mutate removal =>
    apply atFirst?_of_passed
    apply passed_space asksFor_dateAt? (by decide)
    exact passed_around asksFor_dateAt? removal.names_ne_nil (by decide +kernel) (by decide)
      (by decide) (by decide) rest

/-- The first removal list from a block on is the block's own, or else the first one behind it. -/
theorem atFirst?_removalAt?_block (block : Block) (rest : Text) :
    atFirst? removalAt? (' ' :: block.write ++ rest) =
      (block.removal?.map fun removal => listed removal.names).or (atFirst? removalAt? rest) := by
  cases block with
  | grok source =>
    apply atFirst?_of_passed
    apply passed_space asksFor_removalAt? (by decide)
    apply (passed_of_clash asksFor_removalAt? (by decide) _).append
    exact (source.passed_removalAt? _).append (passed_of_clash asksFor_removalAt? (by decide) rest)
  | date field format =>
    apply atFirst?_of_passed
    apply passed_space asksFor_removalAt? (by decide)
    exact passed_around asksFor_removalAt? (by simp) (by decide +kernel) (by decide)
      (by decide) (by decide) rest
  | mutate removal =>
    have found := removalAt?_written removal.names_ne_nil rest
    rw [← List.append_assoc (listed removal.names)] at found
    have before : Passed removalAt? " mutate \x7b ".toList ("remove_field => [".toList ++
        ((listed removal.names ++ "] \x7d".toList) ++ rest)) :=
      passed_of_clash asksFor_removalAt? (by decide) _
    exact (atFirst?_of_passed before).trans (atFirst?_of_answer found)

/-- The body of the `grok` block of a pattern. -/
def Source.section (source : Source) : Text :=
  " match => \x7b \"message\" => \"".toList ++ (escape source.text ++ "\" \x7d ".toList)

theorem Source.balanced_section (source : Source) : Balanced source.section := by
  rw [balanced_iff]
  show depthAfter? 1 (escape source.text ++ "\" \x7d ".toList) = some 0
  rw [depthAfter?_append, source.balanced.escape.depthAfter?]
  rfl

/-- The first `grok` section from a block on is the block's own, or else the first one behind it. -/
theorem grokSection_block (block : Block) (rest : Text) : section? "grok".toList
    (' ' :: block.write ++ rest) =
      (block.source?.map Source.section).or (section? "grok".toList rest) := by
  have asks := asksFor_openingAt? "grok".toList
  cases block with
  | grok source =>
    have split : ' ' :: (Block.grok source).write ++ rest =
        [' '] ++ ("grok".toList ++ ' ' :: '\x7b' :: (source.section ++ '\x7d' :: rest)) := by
      show " grok \x7b match => \x7b \"message\" => \"".toList ++
          (escape source.text ++ "\" \x7d \x7d".toList) ++ rest =
        " grok \x7b".toList ++ (" match => \x7b \"message\" => \"".toList ++
          (escape source.text ++ "\" \x7d ".toList) ++ '\x7d' :: rest)
      rw [List.append_assoc, List.append_assoc, List.append_assoc, List.append_assoc,
        ← List.append_assoc " grok \x7b".toList]
      rfl
    have before : Passed (openingAt? "grok".toList) [' ']
        ("grok".toList ++ ' ' :: '\x7b' :: (source.section ++ '\x7d' :: rest)) :=
      passed_of_clash asks (by decide) _
    have opened := (atFirst?_of_passed before).trans
      (atFirst?_of_answer (openingAt?_written "grok".toList (source.section ++ '\x7d' :: rest)))
    rw [split]
    rw [section?, afterOpening?_eq_atFirst?, opened, Option.bind_some]
    exact body?_of_balanced source.balanced_section rest
  | date field format =>
    rw [section?, section?, afterOpening?_eq_atFirst?, afterOpening?_eq_atFirst?]
    refine congrArg (Option.bind · (body? 0)) (atFirst?_of_passed ?_)
    apply passed_space asks (by decide)
    exact passed_around asks (by simp) (by decide +kernel) (by decide) (by decide) (by decide) rest
  | mutate removal =>
    rw [section?, section?, afterOpening?_eq_atFirst?, afterOpening?_eq_atFirst?]
    refine congrArg (Option.bind · (body? 0)) (atFirst?_of_passed ?_)
    apply passed_space asks (by decide)
    exact passed_around asks removal.names_ne_nil (by decide +kernel) (by decide) (by decide)
      (by decide) rest

/-! ### What a filter holds -/

theorem grokSection_filterBody (blocks : List Block) : section? "grok".toList
    (filterBody blocks) = (blocks.findSome? Block.source?).map Source.section := by
  induction blocks with
  | nil => rfl
  | cons block blocks ih =>
    rw [filterBody_cons, grokSection_block, ih, List.findSome?_cons]
    cases block.source? <;> rfl

theorem dateClause?_filterBody (blocks : List Block) :
    dateClause? (filterBody blocks) = blocks.findSome? Block.clause? := by
  induction blocks with
  | nil => rfl
  | cons block blocks ih =>
    rw [dateClause?] at ih ⊢
    rw [filterBody_cons, atFirst?_dateAt?_block, ih, List.findSome?_cons]
    cases block.clause? <;> rfl

theorem removals_filterBody (blocks : List Block) :
    removals (filterBody blocks) =
      ((blocks.findSome? Block.removal?).map fun removal => removal.names.map Label.text).getD [] := by
  have found : atFirst? removalAt? (filterBody blocks) =
      (blocks.findSome? Block.removal?).map fun removal => listed removal.names := by
    induction blocks with
    | nil => rfl
    | cons block blocks ih =>
      rw [filterBody_cons, atFirst?_removalAt?_block, ih, List.findSome?_cons]
      cases block.removal? <;> rfl
  rw [removals, found, Option.map_map]
  cases blocks.findSome? Block.removal? with
  | none => rfl
  | some removal => exact quotedTextsFrom_listed removal.names

theorem plan?_configuration {blocks : List Block} {source : Source}
    (held : blocks.findSome? Block.source? = some source) :
    plan? (configuration blocks) = pure (some (filterBody blocks, source.text)) := by
  have grok := grokSection_filterBody blocks
  rw [held] at grok
  have pattern : messagePattern? source.section = some source.text := messagePattern?_written source
  unfold plan?
  simp only [filter_of_configuration, grok, Option.map_some, pattern]

/-! ### Jobs -/

/-- A pattern, perhaps the field of a date with its format, perhaps names to remove. -/
structure Job where
  source : Source
  date : Option (Label × Label)
  removal : Option Removal

namespace Job

/-- The blocks that a job is written with. -/
def blocks (job : Job) : List Block :=
  .grok job.source :: ((job.date.map fun clause => Block.date clause.1 clause.2).toList ++
    (job.removal.map Block.mutate).toList)

/-- The fields with the timestamp of the field that holds the date, unless it is missing or
empty. -/
def dated (job : Job) (clock : Time.Moment) (fields : Fields) : Logged Fields :=
  match job.date.bind fun clause => Entries.get? clause.1.text fields with
  | none | some [] => pure fields
  | some value => do
    return Entries.insert timestampField (← Time.normalizeDate clock value) fields

/-- The fields whose names are not to be removed. -/
def kept (job : Job) (fields : Fields) : Fields :=
  fields.filter fun field =>
    !(job.removal.any fun removal => (removal.names.map Label.text).contains field.1)

/-- What a job makes of a line. -/
def outcome [Expr.Engine] (job : Job) (clock : Time.Moment) (compiler : Compiler) (log : Text) :
    Logged (Except Expr.Fault (Option Fields) × Compiler) := do
  match ← compiler.compile job.source.text with
  | (.error fault, compiler) => return (.error fault, compiler)
  | (.ok pattern, compiler) =>
    if pattern.expansion.fields = [] then do
      Logged.note .noDeclaredFields
      return (.ok none, compiler)
    else
      match pattern.find (trim log) with
      | .error fault => return (.error fault, compiler)
      | .ok none => do
        Logged.note .noMatch
        return (.ok none, compiler)
      | .ok (some fields) => return (.ok (some (job.kept (← job.dated clock fields))), compiler)

end Job

/-- Where one block at most holds an answer, it is found in whatever order the blocks stand. -/
theorem findSome?_of_perm {Value : Type} {holds? : Block → Option Value} {held : Option Value}
    {order blocks : List Block} (permuted : order.Perm blocks)
    (alone : blocks.filterMap holds? = held.toList) : order.findSome? holds? = held := by
  have same : (order.filterMap holds?).Perm held.toList := alone ▸ permuted.filterMap holds?
  rw [← List.head?_filterMap]
  cases held with
  | none => rw [List.perm_nil.mp same]; rfl
  | some value => rw [List.perm_singleton.mp same]; rfl

/-- The end of a run, where the filter holds what the job asks for. -/
theorem finish_filterBody {job : Job} {order : List Block} (permuted : order.Perm job.blocks)
    (clock : Time.Moment) (fields : Fields) :
    finish clock (filterBody order) (some fields) =
      (do return some (job.kept (← job.dated clock fields))) := by
  obtain ⟨source, date, removal⟩ := job
  have clause : dateClause? (filterBody order) =
      date.map fun clause => ⟨clause.1.text, clause.2.text⟩ := by
    rw [dateClause?_filterBody]
    apply findSome?_of_perm permuted
    cases date <;> cases removal <;> rfl
  have named : order.findSome? Block.removal? = removal := by
    apply findSome?_of_perm permuted
    cases date <;> cases removal <;> rfl
  have dates : applyDate clock (filterBody order) fields =
      Job.dated ⟨source, date, removal⟩ clock fields := by
    unfold applyDate Job.dated
    rw [clause]
    cases date <;> rfl
  have kept (dated : Fields) : removeAll (removals (filterBody order)) dated =
      Job.kept ⟨source, date, removal⟩ dated := by
    rw [removeAll_eq_filter, removals_filterBody, named]
    cases removal <;> rfl
  show (do return some (removeAll (removals (filterBody order))
    (← applyDate clock (filterBody order) fields))) = _
  simp only [dates, kept]

/-- **A configuration does what its job says**, whatever the pattern, the line, the compiler and the
engine are, and in whatever order the blocks stand. -/
theorem run_configuration [Expr.Engine] (job : Job) (order : List Block)
    (permuted : order.Perm job.blocks) (clock : Time.Moment) (compiler : Compiler) (log : Text) :
    run clock compiler log (configuration order) = job.outcome clock compiler log := by
  have held : order.findSome? Block.source? = some job.source := by
    apply findSome?_of_perm permuted
    obtain ⟨source, date, removal⟩ := job
    cases date <;> cases removal <;> rfl
  unfold run Job.outcome
  rw [plan?_configuration held, Logged.pure_bind]
  dsimp only
  congr 1
  funext answer
  obtain ⟨compiled, next⟩ := answer
  cases compiled with
  | error fault => rfl
  | ok pattern =>
    dsimp only
    unfold matchLine
    by_cases undeclared : pattern.expansion.fields = []
    · rw [if_pos (by simp [undeclared])]
      rw [if_pos undeclared]
      rfl
    · rw [if_neg (by simp [undeclared])]
      rw [if_neg undeclared]
      rcases pattern.find (trim log) with fault | _ | fields
      · rfl
      · rfl
      · dsimp only
        rw [Logged.pure_bind]
        dsimp only
        rw [finish_filterBody permuted, Logged.bind_assoc]
        rfl

/-- A pattern that holds backslashes, quotes and the start of a date clause, with braces. -/
def quotingSource : Source where
  text := "\\[%\x7bHTTPDATE:time\x7d\\] \"%\x7bWORD:word\x7d\" date \\\x7b\\\x7d".toList
  text_ne_nil := by decide
  clean := by decide
  balanced := by decide
  noRemoval := by decide

/-- A job with every block. -/
def quotingJob : Job where
  source := quotingSource
  date := some (⟨"time".toList, by decide, List.all_eq_true.mp (by decide +kernel)⟩,
    ⟨"dd/MMM/yyyy:HH:mm:ss Z".toList, by decide, List.all_eq_true.mp (by decide +kernel)⟩)
  removal := some ⟨[⟨"time".toList, by decide, List.all_eq_true.mp (by decide +kernel)⟩], by decide⟩

/-- A line that the pattern of the job matches. -/
def quotingLine : Text :=
  "[24/Apr/2017:21:22:23 -0700] \"x\" date \x7b\x7d\n".toList

/-- The job is done by a configuration with its blocks in reverse. -/
theorem run_configuration_quotingJob :
    quotingJob.blocks.reverse.Perm quotingJob.blocks ∧
      run ⟨⟨2026, 1, 1⟩, ⟨0, 0, 0, 0⟩, none⟩ .default quotingLine
          (configuration quotingJob.blocks.reverse) =
        quotingJob.outcome ⟨⟨2026, 1, 1⟩, ⟨0, 0, 0, 0⟩, none⟩ .default quotingLine ∧
      (quotingJob.outcome ⟨⟨2026, 1, 1⟩, ⟨0, 0, 0, 0⟩, none⟩ .default quotingLine).value.1.toOption =
        some (some [("word".toList, "x".toList),
          ("@timestamp".toList, "2017-04-24T21:22:23-0700".toList)]) :=
  ⟨List.reverse_perm _, run_configuration quotingJob _ (List.reverse_perm _) _ .default _,
    by decide +kernel⟩

end GrokEvents.Filter
