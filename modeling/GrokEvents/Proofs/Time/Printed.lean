/-
**Printed moments are read back.**

The ISO 8601 text of a moment with an offset is read as the same moment, part by part: the day
before its separator, the time of day before the sign of the offset, and the offset behind it. It
holds neither white space nor a date of an access log, so that a timestamp stays what it is. Only
offsets of less than a second would not be read back, and reading yields none of them.

* `digits?_padded`: a number is read back from as many digits as it was filled up to.
* `timeOfDay?_iso`, `zone?_isoOffset`, `date?_iso`: the parts of a moment.
* `moment?_iso`: a moment is read back.
* `stable_of_moment`: the timestamp of a text that denotes a moment stays and denotes that moment.
-/

import GrokEvents.Proofs.Time.Zoned

namespace GrokEvents.Time

open Text

/-! ### The characters of a timestamp -/

/-- What holds of digits, of signs and of the marks that stand for themselves holds of each
character. -/
theorem Fits.forall {layout text marks : Text} {test : Char → Prop} (fits : Fits layout text)
    (within : layout ⊆ 'd' :: '±' :: marks) (digit : ∀ value < 10, test value.digitChar)
    (sign : '±' ∈ layout → test '+' ∧ test '-') (mark : marks.Forall test) :
    ∀ char ∈ text, test char := by
  induction fits with
  | nil => exact nofun
  | @cons first char layout text admitted _ ih =>
    obtain ⟨known, within⟩ := List.cons_subset.mp within
    refine List.forall_mem_cons.mpr ⟨?_, ih within fun among => sign (List.mem_cons_of_mem _ among)⟩
    rw [admits] at admitted
    split_ifs at admitted with isDigit isSign
    · obtain ⟨value, small, rfl⟩ := exists_digitChar admitted
      exact digit value small
    · obtain ⟨plus, minus⟩ := sign (isSign ▸ List.mem_cons_self)
      rcases Bool.or_eq_true_iff.mp admitted with isPlus | isMinus
      · exact of_decide_eq_true isPlus ▸ plus
      · exact of_decide_eq_true isMinus ▸ minus
    · have among := List.mem_of_ne_of_mem isSign (List.mem_of_ne_of_mem isDigit known)
      exact of_decide_eq_true admitted ▸ List.forall_iff_forall_mem.mp mark first among

/-- The characters of a timestamp that are no digits. -/
def stampMarks : Text :=
  "-T:.+Z".toList

section Timestamps

variable {text : Text} (isTimestamp : IsTimestamp text)

include isTimestamp

theorem IsTimestamp.forall {test : Char → Prop} (digit : ∀ value < 10, test value.digitChar)
    (mark : stampMarks.Forall test) : ∀ char ∈ text, test char := by
  obtain ⟨fraction, isFraction, zone, isZone, fits⟩ := isTimestamp
  have within : ∀ fraction ∈ fractionLayouts, ∀ zone ∈ zoneLayouts,
      dayLayout ++ 'T' :: (clockLayout ++ fraction) ++ zone ⊆ 'd' :: '±' :: stampMarks := by
    decide
  have each := List.forall_iff_forall_mem.mp mark
  exact fits.forall (within fraction isFraction zone isZone) digit
    (fun _ => ⟨each '+' (by decide), each '-' (by decide)⟩) mark

theorem IsTimestamp.places_eq : Iso.places text = text :=
  Iso.places_of_ascii (isTimestamp.forall (by decide) (by decide))

theorem IsTimestamp.trim_eq : trim text = text :=
  trim_of_unblank (isTimestamp.forall (by decide) (by decide))

/-- A timestamp holds no date of an access log, as that has strokes between its parts. -/
theorem IsTimestamp.not_hasWindow : ¬ HasWindow text := by
  rintro ⟨before, window, after, rfl⟩
  have stroke : '/' ∈ before ++ window.text ++ after := by
    simp [Window.text]
  have none : ∀ char ∈ before ++ window.text ++ after, char ≠ '/' :=
    isTimestamp.forall (by decide) (by decide)
  exact none '/' stroke rfl

end Timestamps

/-! ### Offsets as they are written -/

/-- The size of an offset as a time of day. -/
def offsetTime (offset : Int) : TimeOfDay :=
  let seconds := offset.natAbs / 1000000
  ⟨seconds / 3600, seconds / 60 % 60, seconds % 60, offset.natAbs % 1000000⟩

/-- The text of a time of day, without the seconds where there are none. -/
def TimeOfDay.isoShort (time : TimeOfDay) : Text :=
  padded 2 time.hour ++ ':' :: padded 2 time.minute ++
    if time.second = 0 && time.microsecond = 0 then []
    else ':' :: padded 2 time.second ++
      if time.microsecond = 0 then [] else '.' :: padded 6 time.microsecond

theorem isoOffset_eq (offset : Int) :
    isoOffset offset = (if offset < 0 then '-' else '+') :: (offsetTime offset).isoShort :=
  rfl

theorem TimeOfDay.isoShort_eq (time : TimeOfDay) : time.isoShort =
    if time.second = 0 && time.microsecond = 0 then padded 2 time.hour ++ ':' :: padded 2 time.minute
    else time.iso := by
  rw [isoShort, iso, isoSeconds]
  by_cases short : (time.second = 0 && time.microsecond = 0) = true
  · rw [if_pos short, if_pos short, List.append_nil]
  · rw [if_neg short, if_neg short, ← List.append_assoc]

/-! ### Numbers -/

theorem padded_ne_nil (width number : Nat) : padded width number ≠ [] :=
  List.append_ne_nil_of_right_ne_nil _ (ofNat_ne_nil number)

namespace Iso

/-- **A number is read back** from as many digits as it was filled up to. -/
theorem digits?_padded {width number : Nat} (wide : 0 < width) (small : number < 10 ^ width)
    (rest : Text) :
    digits? width (padded width number ++ rest) = some (number, rest) := by
  have long := length_padded wide small
  have all : (padded width number).all Char.isDigit = true :=
    List.all_eq_true.mpr fun _ member => isDigit_of_mem_padded member
  have value : toNat 10 (padded width number) = number := by
    rw [padded, toNat_zeros_append, toNat_ofNat]
  rw [digits?, List.take_left' long, List.drop_left' long, long, all, value]
  simp

theorem fraction?_padded {number : Nat} (small : number < 1000000) (following : Char) :
    fraction? (padded 6 number) following = some (number, goesOn [] following) := by
  have read := digits?_padded (by decide : 0 < 6) small []
  rw [List.append_nil] at read
  rw [fraction?, length_padded (by decide) small, Nat.min_self, read]
  exact congrArg (fun value => some (value, goesOn [] following)) (Nat.mul_one number)

/-! ### Times of day -/

variable {following : Char} {count number microsecond : Nat} {pairs : List Nat}

/-- Before a colon, a pair of digits is one of the parts, and colons are in use from the first one
on. -/
theorem parts?_colon (small : number < 100) {colons : Option Bool} (inUse : colons.getD true = true)
    {more : Text}
    (goes : more ≠ []) :
    parts? following (count + 1) colons pairs (padded 2 number ++ ':' :: more) =
      parts? following count (some true) (number :: pairs) more := by
  obtain ⟨next, others, rfl⟩ := List.exists_cons_of_ne_nil goes
  rw [parts?, digits?_padded (by decide) small, Option.bind_eq_bind, Option.bind_some]
  dsimp only
  rw [decide_eq_true rfl, inUse, Bool.true_and, if_pos rfl]

/-- The last pair ends a time of day without a fraction. -/
theorem parts?_end (small : number < 100) {colons : Option Bool} :
    parts? following (count + 1) colons pairs (padded 2 number) =
      some ⟨number :: pairs, 0, goesOn [] following⟩ := by
  have read := digits?_padded (by decide : 0 < 2) small []
  rw [List.append_nil] at read
  rw [parts?, read]
  rfl

/-- Behind a point stands a fraction. -/
theorem parts?_point (small : number < 100) (fits : microsecond < 1000000) :
    parts? following (count + 1) (some true) pairs (padded 2 number ++ '.' :: padded 6 microsecond) =
      some ⟨number :: pairs, microsecond, goesOn [] following⟩ := by
  have read := fraction?_padded fits following
  have long : (padded 6 microsecond).length = 6 := length_padded (by decide) fits
  obtain ⟨next, others, same⟩ := List.exists_cons_of_length_eq_add_one long
  rw [same] at read ⊢
  rw [parts?, digits?_padded (by decide) small, Option.bind_eq_bind, Option.bind_some]
  dsimp only
  rw [Option.getD_some, if_neg (by decide), if_pos (by decide), read]
  rfl

/-- **A time of day is read back** from its text, if each part fits the digits that it is written in. -/
theorem timeOfDay?_iso {time : TimeOfDay} (hour : time.hour < 100) (minute : time.minute < 100)
    (second : time.second < 100) (fits : time.microsecond < 1000000) (following : Char) :
    timeOfDay? time.iso following = some (time, goesOn [] following) := by
  have parts : parts? following 3 none [] time.iso =
      some ⟨[time.second, time.minute, time.hour], time.microsecond, goesOn [] following⟩ := by
    rw [TimeOfDay.iso, TimeOfDay.isoSeconds]
    simp only [List.append_assoc, List.cons_append]
    rw [parts?_colon hour rfl (by simp), parts?_colon minute rfl (by simp [padded_ne_nil])]
    split_ifs with whole
    · rw [List.append_nil, parts?_end second, whole]
    · rw [parts?_point second fits]
  rw [timeOfDay?, parts]
  rfl

/-- So are hours and minutes alone. -/
theorem timeOfDay?_short {hour minute : Nat} (hourFits : hour < 100) (minuteFits : minute < 100)
    (following : Char) :
    timeOfDay? (padded 2 hour ++ ':' :: padded 2 minute) following =
      some (⟨hour, minute, 0, 0⟩, goesOn [] following) := by
  rw [timeOfDay?, parts?_colon hourFits rfl (padded_ne_nil _ _), parts?_end minuteFits]
  rfl

/-! ### Offsets -/

/-- What stands behind the sign of an offset is read as its size. -/
theorem timeOfDay?_offset {offset : Int} (near : offset.natAbs < microsecondsPerDay) :
    ∃ text, isoOffset offset = (if offset < 0 then '-' else '+') :: text ∧
      timeOfDay? text '\x00' = some (offsetTime offset, false) := by
  have hour : (offsetTime offset).hour < 100 := by
    simp only [offsetTime, microsecondsPerDay] at near ⊢
    omega
  have minute : (offsetTime offset).minute < 100 :=
    (Nat.mod_lt _ (by decide)).trans (by decide : 60 < 100)
  have second : (offsetTime offset).second < 100 :=
    (Nat.mod_lt _ (by decide)).trans (by decide : 60 < 100)
  have fits : (offsetTime offset).microsecond < 1000000 := Nat.mod_lt _ (by decide)
  refine ⟨_, isoOffset_eq offset, ?_⟩
  generalize offsetTime offset = time at hour minute second fits ⊢
  rw [TimeOfDay.isoShort_eq]
  split_ifs with short
  · obtain ⟨hours, minutes, seconds, microseconds⟩ := time
    obtain ⟨noSeconds, noMicroseconds⟩ := Bool.and_eq_true_iff.mp short
    obtain rfl : seconds = 0 := of_decide_eq_true noSeconds
    obtain rfl : microseconds = 0 := of_decide_eq_true noMicroseconds
    exact timeOfDay?_short hour minute _
  · exact timeOfDay?_iso hour minute second fits _

/-- The size that is read of an offset is its own, if that is none or a second at least. -/
theorem size_offsetTime {offset : Int} (isRead : IsRead offset) :
    let time := offsetTime offset
    let seconds := time.hour * 3600 + time.minute * 60 + time.second
    (if seconds = 0 then 0 else seconds * 1000000 + time.microsecond) = offset.natAbs := by
  have whole := isRead.2
  dsimp only [offsetTime]
  split_ifs <;> omega

theorem zone?_of_timeOfDay {sign : Char} {text : Text} {time : TimeOfDay} {size : Nat}
    (signed : sign ≠ 'Z')
    (read : timeOfDay? text '\x00' = some (time, false))
    (sized : (if time.hour * 3600 + time.minute * 60 + time.second = 0 then 0
      else (time.hour * 3600 + time.minute * 60 + time.second) * 1000000 + time.microsecond) = size)
    (near : size < microsecondsPerDay) :
    zone? sign text = some (if sign = '-' then -(size : Int) else size) := by
  rw [zone?, if_neg signed, read, Option.bind_eq_bind, Option.bind_some]
  dsimp only
  rw [sized, if_neg Bool.false_ne_true, if_neg (Nat.not_le.mpr near)]

/-- **An offset is read back**, if it is one that is read. -/
theorem zone?_isoOffset {offset : Int} (isRead : IsRead offset) :
    ∃ sign text, isoOffset offset = sign :: text ∧ startsZone sign = true ∧
      zone? sign text = some offset := by
  obtain ⟨text, split, read⟩ := timeOfDay?_offset isRead.1
  refine ⟨_, text, split, by split_ifs <;> decide, ?_⟩
  rw [zone?_of_timeOfDay (by split_ifs <;> decide) read (size_offsetTime isRead) isRead.1]
  by_cases negative : offset < 0
  · rw [if_pos negative, if_pos rfl]
    exact congrArg some (by omega)
  · rw [if_neg negative, if_neg (by decide)]
    exact congrArg some (by omega)

/-! ### Days -/

/-- Where digits are read, no week is named. -/
theorem exists_digit_padded (width number : Nat) :
    ∃ first others, padded width number = first :: others ∧
    first.isDigit = true := by
  obtain ⟨first, others, same⟩ := List.exists_cons_of_ne_nil (padded_ne_nil width number)
  exact ⟨first, others, same, isDigit_of_mem_padded (same ▸ List.mem_cons_self)⟩

theorem length_iso {date : Date} (proper : date.fault? = none) : date.iso.length = 10 :=
  (Date.fits_iso proper).length_eq.symm

/-- **A day is read back**, before whatever follows. -/
theorem date?_iso {date : Date} (proper : date.fault? = none) (rest : Text) :
    date? (date.iso ++ rest) 10 = some date := by
  obtain ⟨⟨-, year⟩, ⟨-, month⟩, -, day⟩ := Date.fault?_eq_none_iff.mp proper
  have short := daysIn_le date.year date.month
  have long : (date.iso ++ rest).length = 10 + rest.length := by
    rw [List.length_append, length_iso proper]
  have split : date.iso ++ rest =
      padded 4 date.year ++ '-' :: (padded 2 date.month ++ '-' :: (padded 2 date.day ++ rest)) := by
    simp [Date.iso]
  have monthRead := digits?_padded (by decide : 0 < 2) (by omega : date.month < 10 ^ 2)
    ('-' :: (padded 2 date.day ++ rest))
  obtain ⟨first, others, same, digit⟩ := exists_digit_padded 2 date.month
  rw [same] at split monthRead
  rw [date?, long, split, digits?_padded (by decide) (by omega), Option.bind_eq_bind, Option.bind_some]
  simp only [List.head?_cons, List.drop_one, List.tail_cons, if_true, decide_true]
  split
  · rename_i week
    exact absurd (List.head_eq_of_cons_eq week) (ne_of_isDigit digit rfl)
  · rw [monthRead, Option.bind_some, hyphen?, if_pos rfl, Option.bind_eq_bind, Option.bind_some,
      digits?_padded (by decide) (by omega), Option.bind_some, if_pos (Nat.add_sub_cancel ..)]

/-- The separator of a day is its eleventh character. -/
theorem separatorPlace?_iso {date : Date} (proper : date.fault? = none) (rest : Text) :
    separatorPlace? (date.iso ++ 'T' :: rest) = some 10 := by
  obtain ⟨⟨-, year⟩, -⟩ := Date.fault?_eq_none_iff.mp proper
  have yearLong : (padded 4 date.year).length = 4 := length_padded (by decide) (by omega)
  have long : (date.iso ++ 'T' :: rest).length = 11 + rest.length := by
    rw [List.length_append, length_iso proper, List.length_cons]
    omega
  obtain ⟨first, others, same, digit⟩ := exists_digit_padded 2 date.month
  have split : date.iso ++ 'T' :: rest =
      padded 4 date.year ++ '-' :: first :: (others ++ '-' :: (padded 2 date.day ++ 'T' :: rest)) := by
    simp [Date.iso, same]
  have hyphen : (date.iso ++ 'T' :: rest)[4]? = some '-' := by
    rw [split, List.getElem?_append_right yearLong.le, yearLong]
    rfl
  have month : (date.iso ++ 'T' :: rest)[5]? = some first := by
    rw [split, List.getElem?_append_right (by omega), yearLong]
    rfl
  have noWeek : ¬some first = some 'W' :=
    fun week => ne_of_isDigit digit rfl (Option.some.inj week)
  rw [separatorPlace?]
  dsimp only
  rw [if_neg (by omega), if_pos hyphen, if_neg (month ▸ noWeek)]

/-! ### Moments -/

/-- Before its offset, a time of day is read back with it. -/
theorem time?_iso {time : TimeOfDay} {offset : Int} (proper : time.fault? = none)
    (small : time.microsecond < 1000000)
    (isRead : IsRead offset) : time? (time.iso ++ isoOffset offset) = some (time, some offset) := by
  obtain ⟨hour, minute, second⟩ := TimeOfDay.fault?_eq_none_iff.mp proper
  obtain ⟨sign, text, split, starts, zone⟩ := zone?_isoOffset isRead
  obtain ⟨fraction, isFraction, fits⟩ := TimeOfDay.fits_iso proper small
  have within : ∀ fraction ∈ fractionLayouts, clockLayout ++ fraction ⊆ ['d', '±', ':', '.'] ∧
      '±' ∉ clockLayout ++ fraction := by
    decide
  obtain ⟨within, noSign⟩ := within fraction isFraction
  have body : ∀ char ∈ time.iso, (!startsZone char) = true :=
    fits.forall within (by decide) (fun among => absurd among noSign) ⟨rfl, rfl⟩
  have taken : (time.iso ++ sign :: text).takeWhile (fun char => !startsZone char) = time.iso := by
    rw [List.takeWhile_append_of_pos body]
    simp [starts]
  have dropped : (time.iso ++ sign :: text).dropWhile (fun char => !startsZone char) =
      sign :: text := by
    rw [List.dropWhile_append_of_pos body]
    simp [starts]
  rw [split, time?, taken, dropped]
  dsimp only
  rw [timeOfDay?_iso (by omega) (by omega) (by omega) small, Option.bind_eq_bind, Option.bind_some,
    zone]
  rfl

/-- **A moment is read back** from its text, offset and all. -/
theorem moment?_iso {moment : Moment} {offset : Int} (proper : moment.IsProper)
    (known : moment.offset = some offset)
    (isRead : IsRead offset) : moment? moment.iso = some moment := by
  have plain : places moment.iso = moment.iso :=
    (isTimestamp_iso proper (known ▸ rfl)).places_eq
  have dateLong := length_iso proper.date
  have split : moment.iso = moment.date.iso ++ 'T' :: (moment.time.iso ++ isoOffset offset) := by
    rw [Moment.iso, known, List.append_assoc]
    rfl
  have long : moment.iso.length = 11 + (moment.time.iso ++ isoOffset offset).length := by
    rw [split, List.length_append, dateLong, List.length_cons]
    omega
  have separator : moment.iso[10]? = some 'T' := by
    rw [split, List.getElem?_append_right dateLong.le, dateLong]
    rfl
  have rest : moment.iso.drop (10 + (moment.iso[10]?.map Char.utf8Size).getD 1) =
      moment.time.iso ++ isoOffset offset := by
    rw [separator]
    change moment.iso.drop 11 = _
    rw [split, List.drop_append, dateLong, List.drop_eq_nil_of_le (by omega)]
    rfl
  have place : separatorPlace? moment.iso = some 10 := split ▸ separatorPlace?_iso proper.date _
  have day : date? moment.iso 10 = some moment.date := split ▸ date?_iso proper.date _
  have clock := time?_iso proper.time proper.microsecond isRead
  rw [moment?, plain]
  dsimp only
  rw [if_neg (by omega), place, Option.bind_eq_bind, Option.bind_some, day, Option.bind_eq_bind,
    Option.bind_some, if_neg (by omega), rest, clock, Option.bind_eq_bind, Option.bind_some]
  dsimp only
  rw [proper.date, proper.time, ← known]
  rfl

end Iso

/-! ### Timestamps -/

/-- A text without a window becomes the moment that it denotes, with nothing to note. -/
theorem parseTimestamp_of_moment {text : Text} {moment : Moment} (noWindow : ¬ HasWindow text)
    (read : Iso.moment? (trim text) = some moment) (clock : Moment) :
    parseTimestamp clock text = pure moment.zoned.iso := by
  have missing : AccessDate.find? text = none :=
    Option.not_isSome_iff_eq_none.mp fun found => noWindow (hasWindow_iff.mpr found)
  rw [parseTimestamp, missing, read]
  rfl

/-- **The text of a moment is stable.** A text without a window that denotes a moment, blanks around
it aside, becomes the same text by every clock. That text becomes itself by every clock, with
nothing to note, and it denotes the same day, the same time of day and the same offset, which is
none where the first text has none. -/
theorem stable_of_moment {text : Text} {moment : Moment} (noWindow : ¬ HasWindow text)
    (read : Iso.moment? (trim text) = some moment) :
    ∃ stamp, (∀ clock, (parseTimestamp clock text).value = stamp) ∧
      (∀ clock, parseTimestamp clock stamp = pure stamp) ∧
      Iso.moment? stamp = some ⟨moment.date, moment.time, some (moment.offset.getD 0)⟩ := by
  have proper : moment.zoned.IsProper := (Iso.isProper_of_moment? read).zoned
  have isTimestamp : IsTimestamp moment.zoned.iso := isTimestamp_iso proper rfl
  have again : Iso.moment? moment.zoned.iso = some moment.zoned :=
    Iso.moment?_iso proper rfl (Iso.isRead_of_moment? read)
  have trimmed : Iso.moment? (trim moment.zoned.iso) = some moment.zoned := by
    rw [isTimestamp.trim_eq, again]
  refine ⟨moment.zoned.iso, fun clock => ?_, fun clock => ?_, again⟩
  · rw [parseTimestamp_of_moment noWindow read]
    rfl
  · exact parseTimestamp_of_moment isTimestamp.not_hasWindow trimmed clock

/-- A day of a week with a fraction of one digit and an odd offset, and blanks around it. -/
def weekMoment : Text :=
  " 2017W171 21:22:23,5-07:30:15.25\t".toList

/-- It becomes a text that denotes a day of a month. -/
theorem stable_of_moment_weekMoment :
    ∃ stamp, (∀ clock, (parseTimestamp clock weekMoment).value = stamp) ∧
      (∀ clock, parseTimestamp clock stamp = pure stamp) ∧
      Iso.moment? stamp = some ⟨⟨2017, 4, 24⟩, ⟨21, 22, 23, 500000⟩, some (-27015250000)⟩ := by
  have noWindow : ¬ HasWindow weekMoment := by
    decide +kernel
  have read : Iso.moment? (trim weekMoment) =
      some ⟨⟨2017, 4, 24⟩, ⟨21, 22, 23, 500000⟩, some (-27015250000)⟩ := by
    decide +kernel
  exact stable_of_moment noWindow read

end GrokEvents.Time
