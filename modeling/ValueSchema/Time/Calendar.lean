/-!
The Gregorian calendar, extended to all years: dates and the number of the day they name.
Day 0 is the first of January of the year 0.
-/

namespace ValueSchema

-- Sums start from the zero of core, also beside a library with a zero of its own.
attribute [local instance (2000)] Zero.ofOfNat0

def isLeapYear (year : Int) : Bool := year % 4 = 0 ∧ (year % 100 ≠ 0 ∨ year % 400 = 0)

def monthLengths (leap : Bool) : List Nat :=
  [31, if leap then 29 else 28, 31, 30, 31, 30, 31, 31, 30, 31, 30, 31]

/-- A year, a month counted from 1 and a day counted from 1. -/
structure CalendarDate where
  year : Int
  month : Nat
  day : Nat
  deriving DecidableEq

/-! ## Years -/

/-- The number of the first day of a year: 365 days for each year passed, and one for each
of them that is a leap year. -/
def daysBeforeYear (year : Int) : Int :=
  365 * year + (year + 3) / 4 - (year + 99) / 100 + (year + 399) / 400

/-- The year that holds a day. The mean length of a year gives it up to one. -/
def yearOfDay (day : Int) : Int :=
  let estimate := 400 * day / 146097
  if day < daysBeforeYear estimate then estimate - 1
  else if day < daysBeforeYear (estimate + 1) then estimate
  else estimate + 1

theorem daysBeforeYear_yearOfDay (day : Int) :
    daysBeforeYear (yearOfDay day) ≤ day ∧ day < daysBeforeYear (yearOfDay day + 1) := by
  unfold yearOfDay
  generalize equal : 400 * day / 146097 = estimate
  dsimp only
  split
  · rw [Int.sub_add_cancel]
    simp only [daysBeforeYear] at *
    omega
  · split
    · simp only [daysBeforeYear] at *
      omega
    · simp only [daysBeforeYear] at *
      omega

theorem daysBeforeYear_succ (year : Int) :
    daysBeforeYear (year + 1) =
      daysBeforeYear year + (monthLengths (isLeapYear year)).sum := by
  cases leap : isLeapYear year with
  | false =>
      simp only [isLeapYear, decide_eq_false_iff_not] at leap
      simp only [daysBeforeYear, monthLengths, List.sum_cons, List.sum_nil, Bool.false_eq_true,
        if_false]
      omega
  | true =>
      simp only [isLeapYear, decide_eq_true_eq] at leap
      simp only [daysBeforeYear, monthLengths, List.sum_cons, List.sum_nil, if_true]
      omega

/-! ## Months -/

/-- Where a number of days falls when blocks of the given lengths are laid end to end: the
blocks passed, and the days into the next one. -/
def locate : List Nat → Nat → Nat × Nat
  | [], days => (0, days)
  | length :: rest, days =>
      if days < length then (0, days)
      else
        let found := locate rest (days - length)
        (found.1 + 1, found.2)

@[simp] theorem sum_take_locate (lengths : List Nat) (days : Nat) :
    (lengths.take (locate lengths days).1).sum + (locate lengths days).2 = days := by
  induction lengths generalizing days with
  | nil => simp [locate]
  | cons length rest induction =>
      simp only [locate]
      split
      · simp
      · have := induction (days - length)
        simp only [List.take_succ_cons, List.sum_cons]
        omega

/-- A number of days within all blocks together falls into one of them. -/
theorem exists_locate {lengths : List Nat} {days : Nat} (within : days < lengths.sum) :
    ∃ length, lengths[(locate lengths days).1]? = some length ∧
      (locate lengths days).2 < length := by
  induction lengths generalizing days with
  | nil => simp at within
  | cons length rest induction =>
      rw [List.sum_cons] at within
      simp only [locate]
      split
      next inside => exact ⟨length, rfl, inside⟩
      next => exact induction (by omega)

theorem monthLengths_le (leap : Bool) : ∀ length ∈ monthLengths leap, length ≤ 31 := by
  cases leap <;> decide

namespace CalendarDate

/-- The days of the month the date names, none when there is no such month. -/
def monthLength (date : CalendarDate) : Nat :=
  if date.month = 0 then 0
  else ((monthLengths (isLeapYear date.year))[date.month - 1]?).getD 0

def isValid (date : CalendarDate) : Bool := 1 ≤ date.day ∧ date.day ≤ date.monthLength

def dayNumber (date : CalendarDate) : Int :=
  daysBeforeYear date.year +
    ((monthLengths (isLeapYear date.year)).take (date.month - 1)).sum + date.day - 1

def ofDayNumber (day : Int) : CalendarDate :=
  let year := yearOfDay day
  let found := locate (monthLengths (isLeapYear year)) (day - daysBeforeYear year).toNat
  ⟨year, found.1 + 1, found.2 + 1⟩

@[simp] theorem dayNumber_ofDayNumber (day : Int) : (ofDayNumber day).dayNumber = day := by
  have reached := (daysBeforeYear_yearOfDay day).1
  have total := sum_take_locate (monthLengths (isLeapYear (yearOfDay day)))
    (day - daysBeforeYear (yearOfDay day)).toNat
  simp only [ofDayNumber, dayNumber, Nat.add_sub_cancel]
  omega

@[simp] theorem isValid_ofDayNumber (day : Int) : (ofDayNumber day).isValid = true := by
  have reached := daysBeforeYear_yearOfDay day
  rw [daysBeforeYear_succ] at reached
  have within : (day - daysBeforeYear (yearOfDay day)).toNat <
      (monthLengths (isLeapYear (yearOfDay day))).sum := by omega
  rcases exists_locate within with ⟨length, found, inside⟩
  rw [isValid, decide_eq_true_eq, monthLength, ofDayNumber]
  simp only [Nat.add_sub_cancel, found, Option.getD_some, Nat.succ_ne_zero, if_false]
  omega

theorem month_le_of_isValid {date : CalendarDate} (valid : date.isValid = true) :
    date.month ≤ 12 := by
  rw [isValid, decide_eq_true_eq, monthLength] at valid
  apply Nat.le_of_not_lt
  intro beyond
  have absent : (monthLengths (isLeapYear date.year))[date.month - 1]? = none := by
    apply List.getElem?_eq_none
    change 12 ≤ date.month - 1
    omega
  rw [absent, Option.getD_none, ite_self] at valid
  omega

theorem day_le_of_isValid {date : CalendarDate} (valid : date.isValid = true) :
    date.day ≤ 31 := by
  rw [isValid, decide_eq_true_eq] at valid
  refine Nat.le_trans valid.2 ?_
  rw [monthLength]
  split
  · exact Nat.zero_le _
  · cases found : (monthLengths (isLeapYear date.year))[date.month - 1]? with
    | none => exact Nat.zero_le _
    | some length => exact monthLengths_le _ length (List.mem_of_getElem? found)

example : ofDayNumber 719528 = ⟨1970, 1, 1⟩ := by decide

end CalendarDate

end ValueSchema
