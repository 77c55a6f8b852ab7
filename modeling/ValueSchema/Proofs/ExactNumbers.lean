import ValueSchema.Data.OfValue
import ValueSchema.Data.ToValue

/-! # Exact numbers

Rounding leaves alone what a number can hold. So whole numbers of up to 53 digits are numbers
themselves, and a number that is handed over as an integer comes back, without the sign of
a zero. A word comes back as the number near it exactly when no digit of it is rounded off, or
when it is the greatest word.
-/

namespace ValueSchema

-- Powers are those of core, also beside a library with powers of its own.
attribute [local instance (2000)] instPowNat

/-! ## Rounding what is representable -/

theorem Representable.lt_range {units : Nat} (representable : Representable units) :
    units < 2 ^ Format.double.range := by
  rcases representable with ⟨significand, exponent, small, inRange, rfl⟩
  calc significand * 2 ^ exponent
      < 2 ^ (53 : Nat) * 2 ^ exponent := Nat.mul_lt_mul_of_pos_right small (Nat.two_pow_pos _)
    _ = 2 ^ (53 + exponent) := (Nat.pow_add 2 53 exponent).symm
    _ ≤ 2 ^ Format.double.range :=
        Nat.pow_le_pow_right Nat.two_pos (by change 53 + exponent ≤ 2098; omega)

theorem Representable.multiple {significand unit exponent : Nat}
    (small : significand ≤ 2 ^ (53 : Nat)) (isPower : unit = 2 ^ exponent)
    (inRange : exponent < 2045) : Representable (significand * unit) := by
  subst isPower
  refine Format.shifted_representable small ?_
  calc significand * 2 ^ exponent
      ≤ 2 ^ (53 : Nat) * 2 ^ exponent := Nat.mul_le_mul_right _ small
    _ = 2 ^ (53 + exponent) := (Nat.pow_add 2 53 exponent).symm
    _ < 2 ^ (53 + 2045) := Nat.pow_lt_pow_right (by decide) (by omega)

theorem roundQuotient_of_dvd {numerator denominator : Nat} (positive : 0 < denominator)
    (divides : denominator ∣ numerator) :
    roundQuotient numerator denominator = numerator / denominator := by
  have exact : numerator % denominator = 0 := Nat.mod_eq_zero_of_dvd divides
  simp [roundQuotient, exact, positive]

theorem Format.spacing_double_le {significand exponent : Nat}
    (small : significand < 2 ^ (53 : Nat)) :
    Format.double.spacing (significand * 2 ^ exponent) ≤ exponent := by
  by_cases zero : significand = 0
  · simp [Format.spacing, Format.double, zero]
  · have nonzero : significand * 2 ^ exponent ≠ 0 :=
      Nat.mul_ne_zero zero (Nat.ne_of_gt (Nat.two_pow_pos _))
    have digits : (significand * 2 ^ exponent).log2 < 53 + exponent := by
      rw [Nat.log2_lt nonzero, Nat.pow_add]
      exact Nat.mul_lt_mul_of_pos_right small (Nat.two_pow_pos _)
    simp only [Format.spacing, Format.double]
    omega

theorem Format.round_double_of_representable {units : Nat}
    (representable : Representable units) : Format.double.round units 1 = units := by
  rcases representable with ⟨significand, exponent, small, _, rfl⟩
  have divides : 2 ^ Format.double.spacing (significand * 2 ^ exponent) ∣
      significand * 2 ^ exponent :=
    Nat.dvd_mul_left_of_dvd (Nat.pow_dvd_pow 2 (spacing_double_le small)) significand
  rw [Format.round, Nat.div_one, Nat.one_mul,
    roundQuotient_of_dvd (Nat.two_pow_pos _) divides, Nat.div_mul_cancel divides]

theorem Format.round_double_le (units : Nat) : Format.double.round units 1 ≤ 2 * units + 1 := by
  have stepLe : 2 ^ Format.double.spacing units ≤ units + 1 := by
    by_cases zero : units = 0
    · rw [zero]
      decide
    · have spacingLe : Format.double.spacing units ≤ units.log2 := by
        simp only [Format.spacing, Format.double]
        omega
      calc 2 ^ Format.double.spacing units
          ≤ 2 ^ units.log2 := Nat.pow_le_pow_right Nat.two_pos spacingLe
        _ ≤ units := Nat.log2_self_le zero
        _ ≤ units + 1 := Nat.le_succ units
  rw [Format.round, Nat.div_one, Nat.one_mul]
  calc roundQuotient units (2 ^ Format.double.spacing units) * 2 ^ Format.double.spacing units
      ≤ (units / 2 ^ Format.double.spacing units + 1) * 2 ^ Format.double.spacing units :=
        Nat.mul_le_mul_right _ (roundQuotient_le _ _)
    _ = units / 2 ^ Format.double.spacing units * 2 ^ Format.double.spacing units +
          2 ^ Format.double.spacing units := Nat.succ_mul _ _
    _ ≤ 2 * units + 1 := by
        have := Nat.div_mul_le_self units (2 ^ Format.double.spacing units)
        omega

/-- Of the binary digits of a natural number at most 53 stand in front of zeros only. -/
def FitsSignificand (n : Nat) : Prop :=
  ∃ significand exponent : Nat, significand < 2 ^ (53 : Nat) ∧ n = significand * 2 ^ exponent

theorem FitsSignificand.of_le {n : Nat} (small : n ≤ 2 ^ (53 : Nat)) : FitsSignificand n := by
  rcases Nat.lt_or_eq_of_le small with less | equal
  · exact ⟨n, 0, less, (Nat.mul_one n).symm⟩
  · exact ⟨1, 53, by decide, by rw [equal, Nat.one_mul]⟩

theorem Magnitude.pow_mul_one (exponent : Nat) :
    2 ^ exponent * one = 2 ^ (exponent + 1074) := by
  rw [Nat.pow_add, one]

/-- A whole number of up to 64 digits is held when it fits into a significand. -/
theorem FitsSignificand.representable {n : Nat} (fits : FitsSignificand n)
    (bound : n < 2 ^ (64 : Nat)) : Representable (n * Magnitude.one) := by
  rcases fits with ⟨significand, exponent, small, rfl⟩
  by_cases zero : significand = 0
  · exact ⟨0, 0, by decide, by decide, by simp [zero]⟩
  · have shift : exponent < 64 := by
      refine (Nat.pow_lt_pow_iff_right (by decide : 1 < 2)).mp ?_
      exact Nat.lt_of_le_of_lt (Nat.le_mul_of_pos_left _ (Nat.pos_of_ne_zero zero)) bound
    rw [Nat.mul_assoc]
    exact .multiple (Nat.le_of_lt small) (Magnitude.pow_mul_one exponent) (by omega)

/-- Beyond 2^53 there is no room for a fraction, and below it every whole part fits. -/
theorem Magnitude.fitsSignificand_whole (magnitude : Magnitude) :
    FitsSignificand (magnitude.units / one) := by
  rcases magnitude.representable with ⟨significand, exponent, small, _, units⟩
  rw [units]
  by_cases whole : 1074 ≤ exponent
  · refine ⟨significand, exponent - 1074, small, ?_⟩
    rw [← Nat.sub_add_cancel whole, ← pow_mul_one, ← Nat.mul_assoc, Nat.mul_div_cancel _ one_pos,
      Nat.add_sub_cancel]
  · rcases Nat.exists_eq_add_of_lt (Nat.lt_of_not_le whole) with ⟨rest, total⟩
    have unitLe : 2 ^ exponent ≤ one := by
      rw [one, total, Nat.add_assoc, Nat.pow_add]
      exact Nat.le_mul_of_pos_right _ (Nat.two_pow_pos _)
    refine .of_le (Nat.le_of_lt (Nat.div_lt_of_lt_mul ?_))
    calc significand * 2 ^ exponent
        < 2 ^ (53 : Nat) * 2 ^ exponent := Nat.mul_lt_mul_of_pos_right small (Nat.two_pow_pos _)
      _ ≤ 2 ^ (53 : Nat) * one := Nat.mul_le_mul_left _ unitLe
      _ = one * 2 ^ (53 : Nat) := Nat.mul_comm _ _

theorem Magnitude.eq_of_units_eq {left right : Magnitude} (same : left.units = right.units) :
    left = right := by
  cases left
  cases right
  cases same
  rfl

namespace Binary64

theorem round_of_representable (negative : Bool) {units : Nat}
    (representable : Representable units) :
    round .double negative units 1 = .finite negative ⟨units, representable⟩ := by
  have fixed := Format.round_double_of_representable representable
  have inRange : Format.double.round units 1 < 2 ^ Format.double.range := by
    rw [fixed]
    exact representable.lt_range
  rw [round, dif_pos inRange]
  exact congrArg (Binary64.finite negative) (Magnitude.eq_of_units_eq fixed)

/-! ## Whole numbers -/

theorem representable_whole {n : Nat} (small : n ≤ 2 ^ (53 : Nat)) :
    Representable (n * Magnitude.one) :=
  .multiple small Magnitude.one.eq_1 (by decide)

-- From here on one is only known to be positive: it is too great to be computed with.
attribute [local irreducible] Magnitude.one

theorem ofNat_eq_finite {n : Nat} (small : n ≤ 2 ^ (53 : Nat)) :
    ofNat n = .finite false ⟨n * Magnitude.one, representable_whole small⟩ :=
  round_of_representable false (representable_whole small)

theorem ofInt_neg_eq_finite {n : Nat} (positive : 0 < n) (small : n ≤ 2 ^ (53 : Nat)) :
    ofInt (-n) = .finite true ⟨n * Magnitude.one, representable_whole small⟩ := by
  obtain ⟨predecessor, rfl⟩ := Nat.exists_eq_succ_of_ne_zero (Nat.ne_of_gt positive)
  exact round_of_representable true (representable_whole small)

/-! ## Range -/

theorem isFinite_round {negative : Bool} {units exponent : Nat} (bound : units < 2 ^ exponent)
    (inRange : exponent < 2098) : (round .double negative units 1).isFinite = true := by
  have rounded : 2 * units + 1 < 2 ^ (exponent + 1) := by
    rw [Nat.pow_succ]
    omega
  have within : Format.double.round units 1 < 2 ^ Format.double.range :=
    calc Format.double.round units 1
        ≤ 2 * units + 1 := Format.round_double_le units
      _ < 2 ^ (exponent + 1) := rounded
      _ ≤ 2 ^ Format.double.range := Nat.pow_le_pow_right Nat.two_pos inRange
  rw [round, dif_pos within]
  rfl

theorem exists_bound_of_word {n digits : Nat} (bound : n < 2 ^ digits) (word : digits ≤ 64) :
    ∃ exponent : Nat, exponent < 2098 ∧ n * Magnitude.one < 2 ^ exponent := by
  refine ⟨digits + 1074, by omega, ?_⟩
  rw [← Magnitude.pow_mul_one]
  exact Nat.mul_lt_mul_of_pos_right bound Magnitude.one_pos

theorem isFinite_ofInt {n : Int} (bound : n.natAbs < 2 ^ (64 : Nat)) :
    (ofInt n).isFinite = true := by
  rcases exists_bound_of_word bound (Nat.le_refl 64) with ⟨exponent, inRange, small⟩
  cases n with
  | ofNat n =>
      rw [ofInt, ofNat]
      exact isFinite_round small inRange
  | negSucc n =>
      rw [ofInt]
      exact isFinite_round small inRange

/-! ## Words -/

theorem fitsSignificand_toWord (n : Binary64) :
    FitsSignificand n.toWord.toNat ∨ n.toWord.toNat = 2 ^ (64 : Nat) - 1 := by
  cases n with
  | nan => exact .inl (.of_le (Nat.zero_le _))
  | infinite negative =>
      cases negative with
      | false => exact .inr rfl
      | true => exact .inl (.of_le (Nat.zero_le _))
  | finite negative magnitude =>
      cases negative with
      | true => exact .inl (.of_le (Nat.zero_le _))
      | false =>
          have held : min (magnitude.units / Magnitude.one) (2 ^ (64 : Nat) - 1) <
              2 ^ (64 : Nat) := by omega
          rw [toWord, UInt64.toNat_ofNat_of_lt' held]
          rcases Nat.le_total (magnitude.units / Magnitude.one) (2 ^ (64 : Nat) - 1) with
            within | beyond
          · rw [Nat.min_eq_left within]
            exact .inl magnitude.fitsSignificand_whole
          · exact .inr (Nat.min_eq_right beyond)

/-- The greatest word is no number, but the number above it is cut back to it. -/
theorem toWord_ofNat_greatest :
    (ofNat (2 ^ (64 : Nat) - 1)).toWord = UInt64.ofNat (2 ^ (64 : Nat) - 1) := by
  decide +kernel

theorem toWord_ofNat_iff {n : UInt64} :
    (ofNat n.toNat).toWord = n ↔
      FitsSignificand n.toNat ∨ n.toNat = 2 ^ (64 : Nat) - 1 := by
  constructor
  · intro unchanged
    have fits := (ofNat n.toNat).fitsSignificand_toWord
    rwa [unchanged] at fits
  · rintro (fits | greatest)
    · have held := fits.representable n.toNat_lt
      have exact : ofNat n.toNat = .finite false ⟨n.toNat * Magnitude.one, held⟩ :=
        round_of_representable false held
      have within : n.toNat ≤ 2 ^ (64 : Nat) - 1 := Nat.le_sub_one_of_lt n.toNat_lt
      rw [exact, toWord, Nat.mul_div_cancel _ Magnitude.one_pos, Nat.min_eq_left within,
        UInt64.ofNat_toNat]
    · rw [greatest, toWord_ofNat_greatest, ← greatest, UInt64.ofNat_toNat]

theorem toWord_ofNat {n : UInt64} (small : n.toNat ≤ 2 ^ (53 : Nat)) :
    (ofNat n.toNat).toWord = n :=
  toWord_ofNat_iff.mpr (.inl (.of_le small))

/-- The whole part of a number, read off as a word, loses nothing more on the way back. -/
theorem toWord_ofNat_toWord (n : Binary64) : (ofNat n.toWord.toNat).toWord = n.toWord :=
  toWord_ofNat_iff.mpr n.fitsSignificand_toWord

theorem zero_atMost_ofNat (n : Nat) : zero.atMost (ofNat n) = true := by
  rw [ofNat, round]
  split
  · rw [zero, atMost, decide_eq_true_iff]
    exact Int.natCast_nonneg _
  · rfl

/-! ## Numbers handed over -/

def negativeZero : Binary64 := .finite true .zero

/-- Zero without a sign, and every other number as it is. -/
def unsignedZero (n : Binary64) : Binary64 := if n = negativeZero then .zero else n

theorem unsignedZero_of_ne {n : Binary64} (different : n ≠ negativeZero) :
    n.unsignedZero = n := if_neg different

theorem toSmallInt?_zero (negative : Bool) : (finite negative .zero).toSmallInt? = some 0 := by
  simp [toSmallInt?, Magnitude.zero]

/-- Handing over a zero leaves out its sign. -/
theorem toData_unsignedZero (n : Binary64) : n.unsignedZero.toData = n.toData := by
  by_cases negative : n = negativeZero
  · rw [negative, unsignedZero, if_pos rfl, zero, negativeZero, toData, toData, toSmallInt?_zero,
      toSmallInt?_zero]
  · rw [unsignedZero_of_ne negative]

/-- Between -2^53 and 2^53 integers pass through words of 64 bits unchanged. -/
theorem toValue_signed {whole : Int} (small : whole.natAbs < 2 ^ (53 : Nat)) :
    (Data.signed (.ofInt whole)).toValue = .ok (.number (.ofInt whole)) := by
  rw [Data.toValue, Int64.toInt_ofInt_of_le (by omega) (by omega)]

theorem ofInt_signed (negative : Bool) {whole : Nat} (small : whole ≤ 2 ^ (53 : Nat)) :
    ofInt (if negative then -(whole : Int) else whole) =
      unsignedZero (.finite negative ⟨whole * Magnitude.one, representable_whole small⟩) := by
  cases negative with
  | false =>
      rw [unsignedZero_of_ne (fun equal => by cases equal)]
      exact ofNat_eq_finite small
  | true =>
      rcases Nat.eq_zero_or_pos whole with rfl | positive
      · have isZero : (⟨0 * Magnitude.one, representable_whole small⟩ : Magnitude) = .zero :=
          Magnitude.eq_of_units_eq (Nat.zero_mul _)
        have fromZero : ofNat 0 = zero := by rw [ofNat_eq_finite small, isZero, zero]
        rw [isZero, unsignedZero, negativeZero, if_pos rfl]
        exact fromZero
      · have nonzero : whole * Magnitude.one ≠ 0 :=
          Nat.ne_of_gt (Nat.mul_pos positive Magnitude.one_pos)
        rw [if_pos rfl, ofInt_neg_eq_finite positive small, unsignedZero_of_ne]
        intro equal
        rw [negativeZero, Binary64.finite.injEq] at equal
        exact nonzero (congrArg Magnitude.units equal.2)

theorem exists_whole_of_toSmallInt? {n : Binary64} {signed : Int}
    (integral : n.toSmallInt? = some signed) :
    ∃ negative whole, ∃ small : whole < 2 ^ (53 : Nat),
      n = .finite negative
        ⟨whole * Magnitude.one, representable_whole (Nat.le_of_lt small)⟩ ∧
      signed = if negative then -(whole : Int) else whole := by
  cases n with
  | nan => cases integral
  | infinite negative => cases integral
  | finite negative magnitude =>
      simp only [toSmallInt?] at integral
      split at integral
      next within =>
        have units := Nat.div_mul_cancel (Nat.dvd_of_mod_eq_zero within.1)
        refine ⟨negative, magnitude.units / Magnitude.one, within.2, ?_,
          (Option.some.inj integral).symm⟩
        exact congrArg (Binary64.finite negative) (Magnitude.eq_of_units_eq units.symm)
      next => cases integral

theorem ofInt_of_toSmallInt? {n : Binary64} {signed : Int}
    (integral : n.toSmallInt? = some signed) : ofInt signed = n.unsignedZero := by
  rcases exists_whole_of_toSmallInt? integral with ⟨negative, whole, small, rfl, rfl⟩
  exact ofInt_signed negative (Nat.le_of_lt small)

theorem natAbs_lt_of_toSmallInt? {n : Binary64} {signed : Int}
    (integral : n.toSmallInt? = some signed) : signed.natAbs < 2 ^ (53 : Nat) := by
  rcases exists_whole_of_toSmallInt? integral with ⟨negative, whole, small, rfl, rfl⟩
  cases negative with
  | false => exact small
  | true => rwa [if_pos rfl, Int.natAbs_neg]

theorem exists_ofInt_eq_finite {signed : Int} (small : signed.natAbs ≤ 2 ^ (53 : Nat)) :
    ∃ negative magnitude, ofInt signed = .finite negative magnitude ∧
      signedUnits negative magnitude = signed * (Magnitude.one : Int) := by
  rcases Int.eq_nat_or_neg signed with ⟨whole, rfl | rfl⟩
  · refine ⟨false, _, ofNat_eq_finite small, ?_⟩
    exact Int.natCast_mul whole Magnitude.one
  · rw [Int.natAbs_neg] at small
    rcases Nat.eq_zero_or_pos whole with rfl | positive
    · refine ⟨false, _, ofNat_eq_finite small, ?_⟩
      exact Int.natCast_mul 0 Magnitude.one
    · refine ⟨true, _, ofInt_neg_eq_finite positive small, ?_⟩
      rw [signedUnits, if_pos rfl, Int.natCast_mul, Int.neg_mul]

theorem toSmallInt?_of_equal {n : Binary64} {signed : Int} (small : signed.natAbs < 2 ^ (53 : Nat))
    (equal : n.equal (ofInt signed) = true) : n.toSmallInt? = some signed := by
  rcases exists_ofInt_eq_finite (Nat.le_of_lt small) with ⟨negative', magnitude', exact, units⟩
  rw [exact, Binary64.equal, Bool.and_eq_true] at equal
  cases n with
  | nan => cases equal.1
  | infinite negative =>
      cases negative with
      | false => cases equal.1
      | true => cases equal.2
  | finite negative magnitude =>
      simp only [atMost, decide_eq_true_iff] at equal
      have same := Int.le_antisymm equal.1 equal.2
      rw [units] at same
      have whole : magnitude.units = signed.natAbs * Magnitude.one := by
        have sizes := congrArg Int.natAbs same
        rw [Int.natAbs_mul, Int.natAbs_natCast] at sizes
        rw [← sizes, signedUnits]
        cases negative <;> simp
      have sign : (if negative then -(signed.natAbs : Int) else signed.natAbs) = signed := by
        have nonzero := Int.ofNat_ne_zero.mpr (Nat.ne_of_gt Magnitude.one_pos)
        refine Int.eq_of_mul_eq_mul_right nonzero ?_
        rw [← same, signedUnits, whole]
        cases negative with
        | false => exact (Int.natCast_mul _ _).symm
        | true => rw [if_pos rfl, if_pos rfl, Int.natCast_mul, Int.neg_mul]
      rw [toSmallInt?, whole, Nat.mul_mod_left, Nat.mul_div_cancel _ Magnitude.one_pos,
        if_pos ⟨rfl, small⟩, sign]

/-- A number stands for the integer below 2^53 that it equals, if there is one. -/
theorem toSmallInt?_eq_some_iff {n : Binary64} {signed : Int} :
    n.toSmallInt? = some signed ↔
      signed.natAbs < 2 ^ (53 : Nat) ∧ n.equal (ofInt signed) = true := by
  refine ⟨fun integral => ⟨natAbs_lt_of_toSmallInt? integral, ?_⟩, fun holds =>
    toSmallInt?_of_equal holds.1 holds.2⟩
  rw [ofInt_of_toSmallInt? integral]
  by_cases negative : n = negativeZero
  · rw [negative]
    rfl
  · rw [unsignedZero_of_ne negative]
    cases n with
    | nan => cases integral
    | infinite sign => cases integral
    | finite sign magnitude => simp [equal, atMost]

theorem toValue_toData (n : Binary64) : n.toData.toValue = .ok (.number n.unsignedZero) := by
  cases integral : n.toSmallInt? with
  | none =>
      have different : n ≠ negativeZero := by
        rintro rfl
        rw [negativeZero, toSmallInt?_zero] at integral
        cases integral
      rw [toData, integral, unsignedZero_of_ne different, Data.toValue]
  | some signed =>
      rw [toData, integral]
      change (Data.signed (.ofInt signed)).toValue = _
      rw [toValue_signed (natAbs_lt_of_toSmallInt? integral), ofInt_of_toSmallInt? integral]

end Binary64

end ValueSchema
