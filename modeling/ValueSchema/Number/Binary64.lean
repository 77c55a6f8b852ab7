/-!
Binary floating point numbers, held exactly.

Every finite number is a sign and a whole number of least units, `2 ^ (-1074)` each. A
quotient of naturals is rounded to such a number once, to the nearest and on a tie to the
even significand, so sums of errors never arise and every comparison is one of naturals.
-/

namespace ValueSchema

-- Powers are those of core, also beside a library with powers of its own.
attribute [local instance (2000)] instPowNat

/-! ## Magnitudes -/

/-- A magnitude in least units is held without loss when its significand has at most 53
binary digits and it lies below `2 ^ 1024`, that is below `2 ^ 2098` units. -/
def Representable (units : Nat) : Prop :=
  ∃ significand exponent : Nat,
    significand < 2 ^ (53 : Nat) ∧ exponent ≤ 2045 ∧ units = significand * 2 ^ exponent

/-- The absolute value of a finite number, in least units. -/
structure Magnitude where
  units : Nat
  representable : Representable units
  deriving DecidableEq

namespace Magnitude

/-- How many least units make one. -/
def one : Nat := 2 ^ (1074 : Nat)

theorem one_pos : 0 < one := by decide +kernel

def zero : Magnitude := ⟨0, 0, 0, by decide, by decide, by decide⟩

end Magnitude

/-! ## Rounding -/

/-- The quotient of two naturals to the nearest natural, on a tie to the even one. -/
def roundQuotient (numerator denominator : Nat) : Nat :=
  let quotient := numerator / denominator
  let twice := 2 * (numerator % denominator)
  if twice < denominator then quotient
  else if denominator < twice then quotient + 1
  else if quotient % 2 = 0 then quotient
  else quotient + 1

theorem roundQuotient_le (numerator denominator : Nat) :
    roundQuotient numerator denominator ≤ numerator / denominator + 1 := by
  simp only [roundQuotient]
  split
  · omega
  · split
    · omega
    · split <;> omega

/-- A binary format: how many significant digits it keeps, the binary logarithm of its
least distance in least units, and that of the first magnitude beyond its range. -/
structure Format where
  digits : Nat
  least : Nat
  range : Nat
  digits_pos : 0 < digits
  digits_le : digits ≤ 53
  range_le : range ≤ 53 + 2045
  deriving DecidableEq

namespace Format

/-- Double precision. -/
def double : Format := ⟨53, 0, 2098, by decide, by decide, by decide⟩

/-- Single precision; each of its numbers is one of double precision too. -/
def single : Format := ⟨24, 925, 1202, by decide, by decide, by decide⟩

/-- The distance, as a power of two, between neighbours of the format that surround a
quotient. -/
def spacing (format : Format) (quotient : Nat) : Nat :=
  max format.least (quotient.log2 + 1 - format.digits)

/-- A quotient of least units, rounded to the format without regard to its range. -/
def round (format : Format) (numerator denominator : Nat) : Nat :=
  let step := 2 ^ format.spacing (numerator / denominator)
  roundQuotient numerator (denominator * step) * step

/-- A significand of up to 53 digits, shifted, stays representable in every range that it
does not leave. -/
theorem shifted_representable {rounded exponent bound : Nat}
    (roundedLe : rounded ≤ 2 ^ (53 : Nat)) (inRange : rounded * 2 ^ exponent < 2 ^ (53 + bound)) :
    ∃ significand shift, significand < 2 ^ (53 : Nat) ∧ shift ≤ bound ∧
      rounded * 2 ^ exponent = significand * 2 ^ shift := by
  by_cases zero : rounded = 0
  · exact ⟨0, 0, by decide, Nat.zero_le _, by simp [zero]⟩
  · by_cases small : exponent ≤ bound
    · rcases Nat.lt_or_eq_of_le roundedLe with less | equal
      · exact ⟨rounded, exponent, less, small, rfl⟩
      · refine ⟨2 ^ (52 : Nat), exponent + 1, by decide, ?_, ?_⟩
        · have : 53 + exponent < 53 + bound := by
            refine (Nat.pow_lt_pow_iff_right (by decide : 1 < 2)).mp ?_
            rw [Nat.pow_add 2 53 exponent, ← equal]
            exact inRange
          omega
        · rw [equal, ← Nat.pow_add, ← Nat.pow_add]
          congr 1
          omega
    · refine ⟨rounded * 2 ^ (exponent - bound), bound, ?_, Nat.le_refl _, ?_⟩
      · have split : 2 ^ exponent = 2 ^ (exponent - bound) * 2 ^ bound := by
          rw [← Nat.pow_add]
          congr 1
          omega
        rw [split, ← Nat.mul_assoc, Nat.pow_add 2 53 bound] at inRange
        exact Nat.lt_of_mul_lt_mul_right inRange
      · rw [Nat.mul_assoc, ← Nat.pow_add]
        congr 2
        omega

theorem round_shifted (format : Format) (numerator denominator : Nat) {bound : Nat}
    (rangeLe : format.range ≤ 53 + bound)
    (inRange : format.round numerator denominator < 2 ^ format.range) :
    ∃ significand shift, significand < 2 ^ (53 : Nat) ∧ shift ≤ bound ∧
      format.round numerator denominator = significand * 2 ^ shift := by
  have quotientLe : numerator / (denominator * 2 ^ format.spacing (numerator / denominator)) + 1
      ≤ 2 ^ (53 : Nat) := by
    rw [← Nat.div_div_eq_div_mul]
    refine Nat.le_trans (Nat.succ_le_of_lt ?_)
      (Nat.pow_le_pow_right (by decide) format.digits_le)
    rw [Nat.div_lt_iff_lt_mul (Nat.two_pow_pos _), ← Nat.pow_add]
    refine Nat.lt_of_lt_of_le Nat.lt_log2_self (Nat.pow_le_pow_right (by decide) ?_)
    simp only [spacing]
    omega
  have limit : format.round numerator denominator < 2 ^ (53 + bound) :=
    Nat.lt_of_lt_of_le inRange (Nat.pow_le_pow_right Nat.two_pos rangeLe)
  exact shifted_representable (Nat.le_trans (roundQuotient_le _ _) quotientLe) limit

theorem round_representable (format : Format) (numerator denominator : Nat)
    (inRange : format.round numerator denominator < 2 ^ format.range) :
    Representable (format.round numerator denominator) :=
  round_shifted format numerator denominator format.range_le inRange

end Format

/-! ## Numbers -/

/-- A number of double precision. There is one NaN, and zero has a sign. -/
inductive Binary64 where
  | nan
  | infinite (negative : Bool)
  | finite (negative : Bool) (magnitude : Magnitude)
  deriving DecidableEq

namespace Binary64

/-- The number of a format nearest to a signed quotient of least units; beyond the range it
is infinite. -/
def round (format : Format) (negative : Bool) (numerator denominator : Nat) : Binary64 :=
  if inRange : format.round numerator denominator < 2 ^ format.range then
    .finite negative ⟨_, format.round_representable numerator denominator inRange⟩
  else .infinite negative

def zero : Binary64 := .finite false .zero

def ofNat (n : Nat) : Binary64 := round .double false (n * Magnitude.one) 1

def ofInt : Int → Binary64
  | .ofNat n => ofNat n
  | .negSucc n => round .double true ((n + 1) * Magnitude.one) 1

/-- The number of a format nearest to `digits * 10 ^ exponent`. A decimal that lies far
outside every format is settled by its size alone. -/
def ofDecimal (format : Format) (negative : Bool) (digits : Nat) (exponent : Int) : Binary64 :=
  let size := ((Nat.toDigits 10 digits).length : Int) + exponent
  if digits = 0 ∨ size < -400 then .finite negative .zero
  else if 400 < size then .infinite negative
  else if 0 ≤ exponent then
    round format negative (digits * 10 ^ exponent.toNat * Magnitude.one) 1
  else round format negative (digits * Magnitude.one) (10 ^ (-exponent).toNat)

def negate : Binary64 → Binary64
  | .nan => .nan
  | .infinite negative => .infinite !negative
  | .finite negative magnitude => .finite (!negative) magnitude

/-! ## Arithmetic

Each operation is the exact result, rounded once. -/

def mul : Binary64 → Binary64 → Binary64
  | .finite negative left, .finite negative' right =>
      round .double (negative != negative') (left.units * right.units) Magnitude.one
  | .infinite negative, .infinite negative' => .infinite (negative != negative')
  | .infinite negative, .finite negative' magnitude
  | .finite negative magnitude, .infinite negative' =>
      if magnitude.units = 0 then .nan else .infinite (negative != negative')
  | .nan, _ | _, .nan => .nan

def div : Binary64 → Binary64 → Binary64
  | .finite negative left, .finite negative' right =>
      if right.units ≠ 0 then
        round .double (negative != negative') (left.units * Magnitude.one) right.units
      else if left.units = 0 then .nan
      else .infinite (negative != negative')
  | .infinite _, .infinite _ => .nan
  | .infinite negative, .finite negative' _ => .infinite (negative != negative')
  | .finite negative _, .infinite negative' => .finite (negative != negative') .zero
  | .nan, _ | _, .nan => .nan

/-! ## Comparison -/

/-- A finite number as a signed count of least units; both zeros count none. -/
def signedUnits (negative : Bool) (magnitude : Magnitude) : Int :=
  if negative then -(magnitude.units : Int) else magnitude.units

/-- The order of numbers; NaN is comparable with nothing. -/
def atMost : Binary64 → Binary64 → Bool
  | .nan, _ | _, .nan => false
  | .infinite true, _ | _, .infinite false => true
  | .infinite false, _ | _, .infinite true => false
  | .finite negative left, .finite negative' right =>
      signedUnits negative left ≤ signedUnits negative' right

/-- Numeric equality: both zeros are equal, and NaN differs from itself. -/
def equal (left right : Binary64) : Bool :=
  left.atMost right && right.atMost left

def isNaN : Binary64 → Bool
  | .nan => true
  | _ => false

def isFinite : Binary64 → Bool
  | .finite _ _ => true
  | _ => false

/-! ## Whole numbers -/

/-- Whether a number is finite and a whole multiple of `factor`. -/
def isMultipleOf (factor : Nat) : Binary64 → Bool
  | .finite _ magnitude => magnitude.units % (factor * Magnitude.one) = 0
  | _ => false

/-- The integer a number stands for when it is one below `2 ^ 53` in absolute value. In
that range every integer is a number; both zeros stand for 0. -/
def toSmallInt? : Binary64 → Option Int
  | .finite negative magnitude =>
      let whole := magnitude.units / Magnitude.one
      if magnitude.units % Magnitude.one = 0 ∧ whole < 2 ^ (53 : Nat) then
        some (if negative then -(whole : Int) else whole)
      else none
  | _ => none

/-- The whole part, held between 0 and the greatest word of 64 bits; NaN counts as 0. -/
def toWord : Binary64 → UInt64
  | .nan | .infinite true | .finite true _ => 0
  | .infinite false => UInt64.ofNat (2 ^ (64 : Nat) - 1)
  | .finite false magnitude =>
      UInt64.ofNat (min (magnitude.units / Magnitude.one) (2 ^ (64 : Nat) - 1))

end Binary64

end ValueSchema
