import ValueSchema.Time.Calendar
import ValueSchema.Time.Instant

/-!
Moments as text in the form of RFC 3339, such as `2024-05-01T12:00:00.250+00:00`.
-/

namespace ValueSchema.Rfc3339

-- Powers are those of core, also beside a library with powers of its own.
attribute [local instance (2000)] instPowNat

/-! ## Writing -/

/-- A number with zeros in front, up to the given width. -/
def padded (width number : Nat) : List Char :=
  let digits := Nat.toDigits 10 number
  List.replicate (width - digits.length) '0' ++ digits

/-- Years of four digits stand alone, all others carry a sign. -/
def yearText (year : Int) : List Char :=
  if 0 ≤ year ∧ year ≤ 9999 then padded 4 year.toNat
  else (if year < 0 then '-' else '+') :: padded 4 year.natAbs

/-- Three, six or nine places, whichever are enough; none for a whole second. -/
def fractionText (nanoseconds : Nat) : List Char :=
  if nanoseconds = 0 then []
  else if nanoseconds % 1000000 = 0 then '.' :: padded 3 (nanoseconds / 1000000)
  else if nanoseconds % 1000 = 0 then '.' :: padded 6 (nanoseconds / 1000)
  else '.' :: padded 9 nanoseconds

/-- The characters of a moment. A billion nanoseconds or more count as one second more, so a
leap second is second 60 of its minute. -/
def chars (instant : Instant) : List Char :=
  let date := CalendarDate.ofDayNumber (instant.seconds / 86400 + 719528)
  let clock := (instant.seconds % 86400).toNat
  let second := clock % 60 + instant.nanoseconds / 1000000000
  yearText date.year ++ '-' :: padded 2 date.month ++ '-' :: padded 2 date.day ++
    'T' :: padded 2 (clock / 3600) ++ ':' :: padded 2 (clock / 60 % 60) ++
    ':' :: padded 2 second ++ fractionText (instant.nanoseconds % 1000000000) ++
    ['+', '0', '0', ':', '0', '0']

def write (instant : Instant) : String := String.ofList (chars instant)

/-! ## Reading -/

/-- Why a text is not a moment. -/
inductive Fault where
  | premature
  | invalid
  | outOfRange
  | trailing
  deriving DecidableEq

def Fault.message : Fault → String
  | .premature => "premature end of input"
  | .invalid => "input contains invalid characters"
  | .outOfRange => "input is out of range"
  | .trailing => "trailing input"

/-- Exactly `count` digits, appended to the number read so far. -/
def readDigits : Nat → Nat → List Char → Except Fault (Nat × List Char)
  | 0, number, rest => .ok (number, rest)
  | count + 1, number, c :: rest =>
      if c.isDigit then readDigits count (10 * number + (c.toNat - 48)) rest
      else .error .invalid
  | _ + 1, _, [] => .error .premature

/-- One character out of a few. -/
def readOneOf (allowed : List Char) : List Char → Except Fault (List Char)
  | c :: rest => if c ∈ allowed then .ok rest else .error .invalid
  | [] => .error .premature

/-- The places behind the point as nanoseconds: at least one, and those beyond the ninth
are passed over. -/
def readFraction (text : List Char) : Except Fault (Nat × List Char) :=
  let places := text.takeWhile Char.isDigit
  let rest := text.dropWhile Char.isDigit
  if text = [] then .error .premature
  else if places = [] then .error .invalid
  else
    let kept := places.take 9
    .ok (Nat.ofDigitChars 10 kept 0 * 10 ^ (9 - kept.length), rest)

/-- Two digits of an offset. The text must hold two bytes, whatever they are, before it is
looked at. -/
def readOffsetPart : List Char → Except Fault (Nat × List Char)
  | [] => .error .premature
  | [c] => if c.utf8Size < 2 then .error .premature else .error .invalid
  | tens :: ones :: rest =>
      if tens.isDigit ∧ ones.isDigit then
        .ok (10 * (tens.toNat - 48) + (ones.toNat - 48), rest)
      else .error .invalid

/-- Hours, a colon and minutes, in minutes. -/
def readDistance (text : List Char) : Except Fault (Nat × List Char) := do
  let (hours, rest) ← readOffsetPart text
  let rest ← readOneOf [':'] rest
  let (minutes, rest) ← readOffsetPart rest
  if 60 ≤ minutes then .error .outOfRange
  else .ok (60 * hours + minutes, rest)

/-- The offset from universal time, in minutes. The minus sign of typography counts as a
minus. -/
def readOffset : List Char → Except Fault (Int × List Char)
  | [] => .error .premature
  | c :: rest =>
      if c = 'Z' ∨ c = 'z' then .ok (0, rest)
      else if c = '+' then (readDistance rest).map fun (minutes, rest) => ((minutes : Int), rest)
      else if c = '-' ∨ c = '−' then
        (readDistance rest).map fun (minutes, rest) => (-(minutes : Int), rest)
      else .error .invalid

/-- The date of a moment; there must be such a day. -/
def readDate (text : List Char) : Except Fault (CalendarDate × List Char) := do
  let (year, rest) ← readDigits 4 0 text
  let rest ← readOneOf ['-'] rest
  let (month, rest) ← readDigits 2 0 rest
  let rest ← readOneOf ['-'] rest
  let (day, rest) ← readDigits 2 0 rest
  let date : CalendarDate := ⟨year, month, day⟩
  if date.isValid then .ok (date, rest) else .error .outOfRange

/-- The time of day as seconds and nanoseconds. Second 60 stands for a leap second in any
minute. -/
def readTime (text : List Char) : Except Fault ((Nat × Nat) × List Char) := do
  let (hour, rest) ← readDigits 2 0 text
  let rest ← readOneOf [':'] rest
  let (minute, rest) ← readDigits 2 0 rest
  let rest ← readOneOf [':'] rest
  let (second, rest) ← readDigits 2 0 rest
  let (nanoseconds, rest) ← match rest with
    | '.' :: places => readFraction places
    | _ => .ok (0, rest)
  let leap := second = 60
  let second := if leap then 59 else second
  if hour < 24 ∧ minute < 60 ∧ second < 60 then
    .ok ((3600 * hour + 60 * minute + second,
      if leap then nanoseconds + 1000000000 else nanoseconds), rest)
  else .error .outOfRange

/-- Reads the characters of a moment, all of them. -/
def readChars (text : List Char) : Except Fault Instant := do
  let (date, rest) ← readDate text
  let rest ← readOneOf ['T', 't', ' '] rest
  let ((clock, nanoseconds), rest) ← readTime rest
  let (offset, rest) ← readOffset rest
  if rest ≠ [] then .error .trailing
  else if 1440 ≤ offset.natAbs then .error .outOfRange
  else
    match Instant.ofParts? (86400 * (date.dayNumber - 719528) + clock - 60 * offset)
        nanoseconds with
    | some instant => .ok instant
    | none => .error .outOfRange

/-- Reads a moment. A text shorter than a date with a time is refused before it is looked
at. -/
def read (text : String) : Except Fault Instant :=
  if text.utf8ByteSize < 19 then .error .premature else readChars text.toList

end ValueSchema.Rfc3339
