import ValueSchema.Time.Rfc3339

/-! # Written moments

The text of a moment in the years 0 to 9999 reads back as what a clock shows: as that moment,
with its nanoseconds and as a leap second if it is one, or as a moment of the next second if
its nanoseconds go beyond the end of a second that is not the last of a minute. The text of
any other moment starts with the sign of its year, and is refused there.
-/

namespace ValueSchema

-- Powers are those of core, also beside a library with powers of its own.
attribute [local instance (2000)] instPowNat

namespace Instant

/-- The day of universal time on which the moment falls. -/
def day (instant : Instant) : CalendarDate :=
  .ofDayNumber (instant.seconds / 86400 + 719528)

/-- The moment as a clock shows it. Where no leap second is, nanoseconds beyond the end of a
second are carried over to the next one. -/
def carried (instant : Instant) : Instant :=
  if instant.OnClock then instant
  else ⟨instant.seconds + 1, instant.nanoseconds - 1000000000, by
    have valid := instant.valid
    omega⟩

theorem onClock_carried (instant : Instant) : instant.carried.OnClock := by
  have valid := instant.valid
  rw [carried]
  split
  next onClock => exact onClock
  next =>
    have remainder : instant.nanoseconds - 1000000000 < 1000000000 := by omega
    exact .inl remainder

@[simp] theorem carried_eq_self_iff {instant : Instant} :
    instant.carried = instant ↔ instant.OnClock := by
  constructor
  · intro unchanged
    rw [← unchanged]
    exact instant.onClock_carried
  · intro onClock
    exact if_pos onClock

@[simp] theorem day_carried (instant : Instant) : instant.carried.day = instant.day := by
  rw [carried]
  split
  next => rfl
  next beyond =>
    rw [OnClock, not_or] at beyond
    have sameDay : (instant.seconds + 1) / 86400 = instant.seconds / 86400 := by omega
    rw [day, sameDay, day]

end Instant

namespace Rfc3339

/-! ## Digits -/

theorem isDigit_of_mem_padded {width number : Nat} {c : Char}
    (member : c ∈ padded width number) : c.isDigit = true := by
  rcases List.mem_append.mp member with zero | digit
  · rw [List.eq_of_mem_replicate zero]
    rfl
  · exact Nat.isDigit_of_mem_toDigits (by decide) (by decide) digit

theorem le_length_padded (width number : Nat) : width ≤ (padded width number).length := by
  rw [padded, List.length_append, List.length_replicate]
  omega

theorem length_padded {width number : Nat} (positive : 0 < width)
    (small : number < 10 ^ width) : (padded width number).length = width := by
  have fits := (Nat.length_toDigits_le_iff (by decide) positive).mpr small
  rw [padded, List.length_append, List.length_replicate]
  omega

@[simp] theorem ofDigitChars_padded (width number : Nat) :
    Nat.ofDigitChars 10 (padded width number) 0 = number := by
  rw [padded, Nat.ofDigitChars_append, Nat.ofDigitChars_replicate_zero, Nat.mul_zero,
    Nat.ofDigitChars_ten_toDigits]

theorem readDigits_append {digits : List Char} (allDigits : ∀ c ∈ digits, c.isDigit = true)
    (number : Nat) (rest : List Char) :
    readDigits digits.length number (digits ++ rest) =
      .ok (Nat.ofDigitChars 10 digits number, rest) := by
  induction digits generalizing number with
  | nil => rfl
  | cons c digits induction =>
      rw [List.forall_mem_cons] at allDigits
      rw [List.length_cons, List.cons_append, readDigits, if_pos allDigits.1,
        induction allDigits.2, Nat.ofDigitChars_cons]
      rfl

theorem readDigits_padded {width number : Nat} (positive : 0 < width)
    (small : number < 10 ^ width) (rest : List Char) :
    readDigits width 0 (padded width number ++ rest) = .ok (number, rest) := by
  have digits : ∀ c ∈ padded width number, c.isDigit = true := fun _ => isDigit_of_mem_padded
  have read := readDigits_append digits 0 rest
  rw [length_padded positive small, ofDigitChars_padded] at read
  exact read

theorem readOneOf_cons {allowed : List Char} {c : Char} (member : c ∈ allowed)
    (rest : List Char) : readOneOf allowed (c :: rest) = .ok rest := if_pos member

/-! ## Dates -/

theorem readDate_text {date : CalendarDate} (valid : date.isValid = true)
    (notBefore : 0 ≤ date.year) (notAfter : date.year ≤ 9999) (rest : List Char) :
    readDate (yearText date.year ++ '-' :: (padded 2 date.month ++
      '-' :: (padded 2 date.day ++ rest))) = .ok (date, rest) := by
  have yearRead : ∀ rest, readDigits 4 0 (yearText date.year ++ rest) =
      .ok (date.year.toNat, rest) := by
    intro rest
    rw [yearText, if_pos ⟨notBefore, notAfter⟩]
    exact readDigits_padded (by decide) (by omega) rest
  have monthSmall : date.month < 10 ^ 2 :=
    Nat.lt_of_le_of_lt (CalendarDate.month_le_of_isValid valid) (by decide)
  have daySmall : date.day < 10 ^ 2 :=
    Nat.lt_of_le_of_lt (CalendarDate.day_le_of_isValid valid) (by decide)
  have sameDate : (⟨date.year.toNat, date.month, date.day⟩ : CalendarDate) = date := by
    rw [Int.toNat_of_nonneg notBefore]
  simp only [readDate, bind, Except.bind, yearRead, readDigits_padded (by decide) monthSmall,
    readDigits_padded (by decide) daySmall, readOneOf_cons List.mem_cons_self, sameDate, valid,
    if_true]

/-! ## Times -/

theorem readFraction_padded {places number : Nat} (positive : 0 < places) (few : places ≤ 9)
    (small : number < 10 ^ places) (rest : List Char) :
    readFraction (padded places number ++ '+' :: rest) =
      .ok (number * 10 ^ (9 - places), '+' :: rest) := by
  have taken : (padded places number ++ '+' :: rest).takeWhile Char.isDigit =
      padded places number := by
    rw [List.takeWhile_append_of_pos fun _ => isDigit_of_mem_padded]
    exact List.append_nil _
  have dropped : (padded places number ++ '+' :: rest).dropWhile Char.isDigit = '+' :: rest := by
    rw [List.dropWhile_append_of_pos fun _ => isDigit_of_mem_padded]
    rfl
  have length := length_padded positive small
  have someDigits : padded places number ≠ [] := by
    rw [ne_eq, ← List.length_eq_zero_iff, length]
    omega
  have allKept : (padded places number).take 9 = padded places number :=
    List.take_of_length_le (by omega)
  simp only [readFraction, taken, dropped, someDigits, allKept, ofDigitChars_padded, length,
    List.append_eq_nil_iff, false_and, if_false]

/-- The text of a fraction is empty, or a point and digits that read back. -/
theorem fractionText_cases {nanoseconds : Nat} (small : nanoseconds < 1000000000) :
    (nanoseconds = 0 ∧ fractionText nanoseconds = []) ∨
      ∃ digits, fractionText nanoseconds = '.' :: digits ∧
        ∀ rest, readFraction (digits ++ '+' :: rest) = .ok (nanoseconds, '+' :: rest) := by
  rw [fractionText]
  by_cases whole : nanoseconds = 0
  · exact .inl ⟨whole, if_pos whole⟩
  · rw [if_neg whole]
    apply Or.inr
    by_cases milli : nanoseconds % 1000000 = 0
    · refine ⟨_, if_pos milli, fun rest => ?_⟩
      rw [readFraction_padded (by decide) (by decide) (by omega)]
      congr 2
      omega
    · rw [if_neg milli]
      by_cases micro : nanoseconds % 1000 = 0
      · refine ⟨_, if_pos micro, fun rest => ?_⟩
        rw [readFraction_padded (by decide) (by decide) (by omega)]
        congr 2
        omega
      · refine ⟨_, if_neg micro, fun rest => ?_⟩
        rw [readFraction_padded (by decide) (by decide) small]
        congr 2
        omega

/-- A clock shows seconds into the day. Its last second may be a leap second, which is a
billion nanoseconds or more into the second before. -/
theorem readTime_text {clock nanoseconds : Nat} (withinDay : clock < 86400)
    (valid : nanoseconds < 1000000000 ∨ nanoseconds < 2000000000 ∧ clock % 60 = 59)
    (rest : List Char) :
    readTime (padded 2 (clock / 3600) ++ ':' :: (padded 2 (clock / 60 % 60) ++
      ':' :: (padded 2 (clock % 60 + nanoseconds / 1000000000) ++
        (fractionText (nanoseconds % 1000000000) ++ '+' :: rest)))) =
      .ok ((clock, nanoseconds), '+' :: rest) := by
  have secondBack : (if clock % 60 + nanoseconds / 1000000000 = 60 then 59
      else clock % 60 + nanoseconds / 1000000000) = clock % 60 := by
    split <;> omega
  have nanosecondsBack : (if clock % 60 + nanoseconds / 1000000000 = 60 then
      nanoseconds % 1000000000 + 1000000000 else nanoseconds % 1000000000) = nanoseconds := by
    split <;> omega
  have inRange : clock / 3600 < 24 ∧ clock / 60 % 60 < 60 ∧ clock % 60 < 60 := by omega
  have clockBack : 3600 * (clock / 3600) + 60 * (clock / 60 % 60) + clock % 60 = clock := by omega
  simp only [readTime, bind, Except.bind]
  rw [readDigits_padded (by decide) (by omega)]
  simp only [readOneOf_cons List.mem_cons_self]
  rw [readDigits_padded (by decide) (by omega)]
  simp only [readOneOf_cons List.mem_cons_self]
  rw [readDigits_padded (by decide) (by omega)]
  rcases fractionText_cases (Nat.mod_lt nanoseconds (by decide : 0 < 1000000000)) with
    ⟨whole, text⟩ | ⟨digits, text, digitsRead⟩
  · rw [whole] at nanosecondsBack
    simp only [text, List.nil_append, secondBack, nanosecondsBack, inRange, and_self, if_true,
      clockBack]
    rfl
  · simp only [text, List.cons_append, digitsRead, secondBack, nanosecondsBack, inRange, and_self,
      if_true, clockBack]

/-! ## Moments -/

theorem chars_eq (instant : Instant) :
    chars instant = yearText instant.day.year ++ '-' :: (padded 2 instant.day.month ++
      '-' :: (padded 2 instant.day.day ++ 'T' ::
        (padded 2 ((instant.seconds % 86400).toNat / 3600) ++
          ':' :: (padded 2 ((instant.seconds % 86400).toNat / 60 % 60) ++
            ':' :: (padded 2 ((instant.seconds % 86400).toNat % 60 +
                instant.nanoseconds / 1000000000) ++
              (fractionText (instant.nanoseconds % 1000000000) ++
                ['+', '0', '0', ':', '0', '0'])))))) := by
  simp only [chars, Instant.day, List.append_assoc, List.cons_append]

/-- The carry of nanoseconds is done in the text, too. -/
@[simp] theorem chars_carried (instant : Instant) : chars instant.carried = chars instant := by
  rw [chars_eq, chars_eq, instant.day_carried, Instant.carried]
  split
  next => rfl
  next beyond =>
    have valid := instant.valid
    rw [Instant.OnClock, not_or] at beyond
    have nextClock : ((instant.seconds + 1) % 86400).toNat =
        (instant.seconds % 86400).toNat + 1 := by omega
    have notLast : (instant.seconds % 86400).toNat % 60 ≠ 59 := by omega
    have sameHour : ((instant.seconds % 86400).toNat + 1) / 3600 =
        (instant.seconds % 86400).toNat / 3600 := by omega
    have sameMinute : ((instant.seconds % 86400).toNat + 1) / 60 =
        (instant.seconds % 86400).toNat / 60 := by omega
    have sameSecond : ((instant.seconds % 86400).toNat + 1) % 60 +
          (instant.nanoseconds - 1000000000) / 1000000000 =
        (instant.seconds % 86400).toNat % 60 + instant.nanoseconds / 1000000000 := by omega
    have sameFraction : (instant.nanoseconds - 1000000000) % 1000000000 =
        instant.nanoseconds % 1000000000 := by omega
    rw [nextClock, sameHour, sameMinute, sameSecond, sameFraction]

theorem readChars_chars {instant : Instant} (onClock : instant.OnClock)
    (notBefore : 0 ≤ instant.day.year) (notAfter : instant.day.year ≤ 9999) :
    readChars (chars instant) = .ok instant := by
  have dayValid : instant.day.isValid = true := CalendarDate.isValid_ofDayNumber _
  have dayNumber : instant.day.dayNumber = instant.seconds / 86400 + 719528 :=
    CalendarDate.dayNumber_ofDayNumber _
  have timeValid : instant.nanoseconds < 1000000000 ∨ instant.nanoseconds < 2000000000 ∧
      (instant.seconds % 86400).toNat % 60 = 59 := by
    have valid := instant.valid
    rw [Instant.OnClock] at onClock
    omega
  have made : Instant.ofParts? instant.seconds instant.nanoseconds = some instant :=
    Instant.ofParts?_eq_some_iff.mpr ⟨onClock, rfl, rfl⟩
  have offset : readOffset ['+', '0', '0', ':', '0', '0'] = .ok (0, []) := by rfl
  have total : 86400 * (instant.day.dayNumber - 719528) +
      ((instant.seconds % 86400).toNat : Int) - 60 * 0 = instant.seconds := by
    rw [dayNumber]
    omega
  rw [chars_eq]
  simp only [readChars, bind, Except.bind]
  rw [readDate_text dayValid notBefore notAfter]
  simp only [readOneOf_cons List.mem_cons_self]
  rw [readTime_text (by omega) timeValid]
  simp only [offset]
  rw [if_neg (fun empty => empty rfl), if_neg (by decide), total, made]

/-- Where a year is written with a sign, reading stops at once. -/
theorem readChars_chars_of_signed {instant : Instant}
    (signed : ¬(0 ≤ instant.day.year ∧ instant.day.year ≤ 9999)) :
    readChars (chars instant) = .error .invalid := by
  rw [chars_eq, yearText, if_neg signed]
  split <;> rfl

theorem le_length_chars (instant : Instant) : 19 ≤ (chars instant).length := by
  have year : 4 ≤ (yearText instant.day.year).length := by
    rw [yearText]
    split
    · exact le_length_padded 4 _
    · exact Nat.le_succ_of_le (le_length_padded 4 _)
  have month := le_length_padded 2 instant.day.month
  have day := le_length_padded 2 instant.day.day
  have hour := le_length_padded 2 ((instant.seconds % 86400).toNat / 3600)
  have minute := le_length_padded 2 ((instant.seconds % 86400).toNat / 60 % 60)
  have second := le_length_padded 2
    ((instant.seconds % 86400).toNat % 60 + instant.nanoseconds / 1000000000)
  simp only [chars_eq, List.length_append, List.length_cons]
  omega

theorem length_le_utf8ByteSize (text : List Char) :
    text.length ≤ (String.ofList text).utf8ByteSize := by
  induction text with
  | nil => exact Nat.zero_le _
  | cons c rest induction =>
      rw [String.ofList_cons, String.utf8ByteSize_append, String.utf8ByteSize_singleton,
        List.length_cons]
      have := c.utf8Size_pos
      omega

@[simp] theorem write_carried (instant : Instant) : write instant.carried = write instant := by
  rw [write, write, chars_carried]

/-- The text of a moment in the years 0 to 9999 is read as what a clock shows then, and that
of any other moment is refused. -/
theorem read_write (instant : Instant) :
    read (write instant) =
      if 0 ≤ instant.day.year ∧ instant.day.year ≤ 9999 then .ok instant.carried
      else .error .invalid := by
  have long := Nat.le_trans (le_length_chars instant) (length_le_utf8ByteSize _)
  rw [read, write, if_neg (Nat.not_lt.mpr long), String.toList_ofList]
  split
  next unsigned =>
    rw [← instant.day_carried] at unsigned
    rw [← chars_carried]
    exact readChars_chars instant.onClock_carried unsigned.1 unsigned.2
  next signed => exact readChars_chars_of_signed signed

end Rfc3339

end ValueSchema
