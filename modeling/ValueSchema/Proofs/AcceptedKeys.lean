import ValueSchema.Proofs.DataInduction
import ValueSchema.Proofs.ExactNumbers
import ValueSchema.Proofs.WrittenJson

/-! # Accepted keys

The keys of maps follow a small grammar: below any wrappers, a key is a text, a character, the name
of a variant or the decimal numeral of an integer. Numerals have no padding, so integers of all
widths are the same key exactly when they are equal. Everything else is refused.
-/

namespace ValueSchema

-- Powers are those of core, also beside a library with powers of its own.
attribute [local instance (2000)] instPowNat

/-! ## Numerals -/

/-- The decimal digits of a number, without a zero in front of others. -/
structure IsDigitsOf (n : Nat) (digits : List Char) : Prop where
  nonempty : digits ≠ []
  areDigits : ∀ c ∈ digits, c.isDigit = true
  unpadded : digits.head? = some '0' → digits = ['0']
  value : Nat.ofDigitChars 10 digits 0 = n

/-- The digits of an integer, behind a minus if it is below zero. -/
def IsNumeral (n : Int) (text : String) : Prop :=
  ∃ digits, IsDigitsOf n.natAbs digits ∧ text.toList = if n < 0 then '-' :: digits else digits

theorem isDigitsOf_toDigits (n : Nat) : IsDigitsOf n (Nat.toDigits 10 n) where
  nonempty := Nat.toDigits_ne_nil
  areDigits _ member := Nat.isDigit_of_mem_toDigits (by decide) (by decide) member
  unpadded zero := by
    cases n with
    | zero => rfl
    | succ n => exact absurd zero (Json.head?_toDigits_ne_zero (Nat.succ_pos n))
  value := Nat.ofDigitChars_ten_toDigits

/-- A digit is the whole numeral of its value. -/
theorem toDigits_of_isDigit {c : Char} (digit : c.isDigit = true) :
    c.toNat - 48 < 10 ∧ Nat.toDigits 10 (c.toNat - 48) = [c] := by
  have range : 48 ≤ c.toNat ∧ c.toNat ≤ 57 := Char.isDigit_iff_toNat.mp digit
  have small : c.toNat - 48 < 10 := by omega
  have same : Nat.digitChar (c.toNat - 48) = c := by
    rw [← Char.toNat_inj, Nat.toNat_digitChar_of_lt_ten small]
    omega
  rw [Nat.toDigits_of_lt_base small, same]
  exact ⟨small, rfl⟩

/-- Further digits are put behind those of a number that is not zero. -/
theorem toDigits_ofDigitChars {digits : List Char} (areDigits : ∀ c ∈ digits, c.isDigit = true)
    {n : Nat} (positive : 0 < n) :
    Nat.toDigits 10 (Nat.ofDigitChars 10 digits n) = Nat.toDigits 10 n ++ digits := by
  induction digits generalizing n with
  | nil => rw [Nat.ofDigitChars_nil, List.append_nil]
  | cons c rest induction =>
      rw [List.forall_mem_cons] at areDigits
      have digit := toDigits_of_isDigit areDigits.1
      change Nat.toDigits 10 (Nat.ofDigitChars 10 rest (10 * n + (c.toNat - 48))) = _
      rw [induction areDigits.2 (by omega),
        ← Nat.toDigits_append_toDigits (by decide) positive digit.1, digit.2, List.append_assoc,
        List.singleton_append]

/-- There is one way to write a number without padding. -/
theorem IsDigitsOf.eq_toDigits {n : Nat} {digits : List Char} (isDigits : IsDigitsOf n digits) :
    digits = Nat.toDigits 10 n := by
  rcases isDigits with ⟨nonempty, areDigits, unpadded, rfl⟩
  cases digits with
  | nil => exact absurd rfl nonempty
  | cons c rest =>
      rw [List.forall_mem_cons] at areDigits
      by_cases zero : c = '0'
      · rw [unpadded (congrArg some zero)]
        rfl
      · have digit := toDigits_of_isDigit areDigits.1
        have positive : 0 < c.toNat - 48 := by
          apply Nat.pos_of_ne_zero
          intro isZero
          rw [isZero] at digit
          exact zero (List.singleton_inj.mp digit.2).symm
        have leading : Nat.ofDigitChars 10 (c :: rest) 0 =
            Nat.ofDigitChars 10 rest (c.toNat - 48) := by
          rw [Nat.ofDigitChars_cons, Nat.mul_zero, Nat.zero_add]
          rfl
        rw [leading, toDigits_ofDigitChars areDigits.2 positive, digit.2, List.singleton_append]

theorem toList_toString (n : Int) :
    (toString n).toList = if n < 0 then '-' :: Nat.toDigits 10 n.natAbs
      else Nat.toDigits 10 n.natAbs := by
  cases n with
  | ofNat n =>
      have notBelow : ¬Int.ofNat n < 0 := Int.not_lt.mpr (Int.natCast_nonneg n)
      rw [if_neg notBelow]
      exact Json.toList_toString_nonneg n
  | negSucc n =>
      rw [if_pos (Int.negSucc_lt_zero n)]
      exact Json.toList_toString_negSucc n

theorem isNumeral_iff {n : Int} {text : String} : IsNumeral n text ↔ text = toString n := by
  rw [← String.toList_inj, toList_toString]
  constructor
  · intro numeral
    rcases numeral with ⟨digits, isDigits, written⟩
    rw [← isDigits.eq_toDigits]
    exact written
  · intro written
    exact ⟨_, isDigitsOf_toDigits n.natAbs, written⟩

/-- A numeral is read in one way: its digits give the absolute value, and only a minus is none. -/
theorem IsNumeral.unique {m n : Int} {text : String} (first : IsNumeral m text)
    (second : IsNumeral n text) : m = n := by
  rcases first with ⟨digits, isDigits, written⟩
  rcases second with ⟨others, areOthers, writtenToo⟩
  have noMinus (n : Nat) (rest : List Char) : ¬IsDigitsOf n ('-' :: rest) := by
    intro isDigits
    exact absurd (isDigits.areDigits '-' List.mem_cons_self) (by decide)
  have sameValue : digits = others → m.natAbs = n.natAbs := by
    intro same
    rw [← isDigits.value, ← areOthers.value, same]
  rw [written] at writtenToo
  by_cases below : m < 0
  · by_cases belowToo : n < 0
    · rw [if_pos below, if_pos belowToo] at writtenToo
      have size := sameValue (List.cons.inj writtenToo).2
      omega
    · rw [if_pos below, if_neg belowToo] at writtenToo
      rw [← writtenToo] at areOthers
      exact absurd areOthers (noMinus _ _)
  · by_cases belowToo : n < 0
    · rw [if_neg below, if_pos belowToo] at writtenToo
      rw [writtenToo] at isDigits
      exact absurd isDigits (noMinus _ _)
    · rw [if_neg below, if_neg belowToo] at writtenToo
      have size := sameValue writtenToo
      omega

/-! ## Keys -/

namespace Data

/-- The data inside all wrappers. -/
def unwrapped : Data → Data
  | .newtypeStruct _ inner => inner.unwrapped
  | data => data

/-- The integer of up to 64 bits that data is. -/
def integer? : Data → Option Int
  | .signed n => some n.toInt
  | .unsigned n => some n.toNat
  | _ => none

/-- The texts that data without wrappers stands for as a key. -/
inductive Spells : Data → String → Prop
  | char {c} : Spells (.char c) (String.singleton c)
  | string {text} : Spells (.string text) text
  | unitVariant {variant} : Spells (.unitVariant variant) variant
  | integer {data n text} (whole : data.integer? = some n) (numeral : IsNumeral n text) :
      Spells data text

/-- The message for data without wrappers that is no key. -/
def keyRefusal : Data → String
  | .wideSigned _ => "i128 is not supported"
  | .wideUnsigned _ => "u128 is not supported"
  | .failure message => message
  | _ => "map keys must be strings"

variable {data : Data} {n : Int} {text : String}

theorem spells_iff_of_integer (whole : data.integer? = some n) :
    data.Spells text ↔ text = toString n := by
  rw [← isNumeral_iff]
  constructor
  · intro spells
    cases spells with
    | integer sameWhole numeral =>
        rw [whole] at sameWhole
        cases sameWhole
        exact numeral
    | _ => cases whole
  · exact .integer whole

theorem toKey_of_integer (whole : data.integer? = some n) : data.toKey = .ok (toString n) := by
  cases data with
  | signed _ | unsigned _ =>
      cases whole
      rfl
  | _ => cases whole

theorem toKey_eq_ok_iff_of_integer (whole : data.integer? = some n) :
    data.toKey = .ok text ↔ data.Spells text := by
  rw [toKey_of_integer whole, spells_iff_of_integer whole, Except.ok.injEq, eq_comm]

theorem toKey_eq_ok_iff (key : Data) (text : String) :
    key.toKey = .ok text ↔ key.unwrapped.Spells text := by
  induction key with
  | newtypeStruct name inner induction => exact induction
  | signed n => exact toKey_eq_ok_iff_of_integer rfl
  | unsigned n => exact toKey_eq_ok_iff_of_integer rfl
  | char _ | string _ | unitVariant _ =>
      constructor
      · intro taken
        cases taken
        constructor
      · intro spells
        cases spells with
        | integer whole _ => cases whole
        | _ => rfl
  | _ =>
      apply iff_of_false
      · intro taken
        cases taken
      · intro spells
        cases spells with
        | integer whole _ => cases whole

theorem message_eq_of_toKey {key : Data} {fault : ConversionFault}
    (refused : key.toKey = .error fault) : fault.message = key.unwrapped.keyRefusal := by
  induction key with
  | newtypeStruct name inner induction => exact induction refused
  | _ => cases refused <;> rfl

theorem toKey_eq_error_iff (key : Data) (error : Error) :
    key.toKey.mapError ConversionFault.toError = .error error ↔
      (∀ text, ¬key.unwrapped.Spells text) ∧ error = ⟨none, .custom key.unwrapped.keyRefusal⟩ := by
  cases outcome : key.toKey with
  | ok text =>
      apply iff_of_false
      · intro refused
        cases refused
      · intro refused
        exact refused.1 text ((key.toKey_eq_ok_iff text).mp outcome)
  | error fault =>
      have none (text : String) : ¬key.unwrapped.Spells text := by
        intro spells
        rw [(key.toKey_eq_ok_iff text).mpr spells] at outcome
        cases outcome
      rw [← message_eq_of_toKey outcome, and_iff_right none]
      constructor
      · intro refused
        cases refused
        rfl
      · intro same
        rw [same]
        rfl

end Data

/-! ## Values as keys -/

namespace Value

/-- The text that a value stands for as a key. A number stands for the integer that it equals, if
that is below `2 ^ 53` in absolute value. -/
inductive SpellsKey : Value → String → Prop
  | string {text} : SpellsKey (.string text) text
  | date {instant} : SpellsKey (.date instant) (Rfc3339.write instant)
  | number {n whole text} (small : whole.natAbs < 2 ^ (53 : Nat))
      (equal : n.equal (.ofInt whole) = true) (numeral : IsNumeral whole text) :
      SpellsKey (.number n) text

theorem integer?_toData {n : Binary64} {whole : Int} (integral : n.toSmallInt? = some whole) :
    n.toData.integer? = some whole := by
  have small := Binary64.natAbs_lt_of_toSmallInt? integral
  rw [Binary64.toData, integral]
  exact congrArg some (Int64.toInt_ofInt_of_le (by omega) (by omega))

theorem spells_toData_iff (value : Value) (text : String) :
    value.toData.unwrapped.Spells text ↔ value.SpellsKey text := by
  rw [← Data.toKey_eq_ok_iff]
  cases value with
  | string _ | date _ =>
      constructor
      · intro taken
        cases taken
        constructor
      · intro spells
        cases spells
        rfl
  | number n =>
      rw [toData]
      cases integral : n.toSmallInt? with
      | none =>
          apply iff_of_false
          · rw [Binary64.toData, integral]
            intro taken
            cases taken
          · intro spells
            cases spells with
            | number small equal _ =>
                rw [Binary64.toSmallInt?_eq_some_iff.mpr ⟨small, equal⟩] at integral
                cases integral
      | some whole =>
          have bounds := Binary64.toSmallInt?_eq_some_iff.mp integral
          rw [Data.toKey_eq_ok_iff_of_integer (integer?_toData integral),
            Data.spells_iff_of_integer (integer?_toData integral), ← isNumeral_iff]
          constructor
          · exact .number bounds.1 bounds.2
          · intro spells
            cases spells with
            | number small equal numeral =>
                rw [Binary64.toSmallInt?_eq_some_iff.mpr ⟨small, equal⟩] at integral
                cases integral
                exact numeral
  | _ =>
      apply iff_of_false
      · intro taken
        cases taken
      · intro spells
        cases spells

theorem keyRefusal_toData (value : Value) :
    value.toData.unwrapped.keyRefusal = "map keys must be strings" := by
  cases value with
  | number n =>
      rw [toData, Binary64.toData]
      cases n.toSmallInt? <;> rfl
  | _ => rfl

end Value

/-! ## The grammar of keys -/

namespace Data

/-- Inside all wrappers, a key is a text, a character, the name of a variant or the numeral of an
integer of up to 64 bits, and integers of any widths are the same key exactly when they are equal.
Everything else is refused by an error without a path. Of values these are the strings, the dates
and the numbers that equal an integer below `2 ^ 53`. -/
theorem keys_follow_grammar :
    (∀ (key : Data) (text : String), key.toKey = .ok text ↔ key.unwrapped.Spells text) ∧
    (∀ (first second : Data) (m n : Int), first.unwrapped.integer? = some m →
      second.unwrapped.integer? = some n →
        ∃ text other, first.toKey = .ok text ∧ second.toKey = .ok other ∧
          (text = other ↔ m = n)) ∧
    (∀ (key : Data) (error : Error), key.toKey.mapError ConversionFault.toError = .error error ↔
      (∀ text, ¬key.unwrapped.Spells text) ∧
        error = ⟨none, .custom key.unwrapped.keyRefusal⟩) ∧
    (∀ (value : Value) (text : String),
      value.toData.toKey = .ok text ↔ value.SpellsKey text) ∧
    ∀ (value : Value) (error : Error),
      value.toData.toKey.mapError ConversionFault.toError = .error error ↔
        (∀ text, ¬value.SpellsKey text) ∧
          error = ⟨none, .custom "map keys must be strings"⟩ := by
  have taken {key : Data} {n : Int} (whole : key.unwrapped.integer? = some n) :
      key.toKey = .ok (toString n) :=
    (key.toKey_eq_ok_iff _).mpr ((spells_iff_of_integer whole).mpr rfl)
  constructor
  · exact toKey_eq_ok_iff
  constructor
  · intro first second m n whole wholeToo
    apply Exists.intro (toString m)
    apply Exists.intro (toString n)
    constructor
    · exact taken whole
    constructor
    · exact taken wholeToo
    constructor
    · intro same
      exact (isNumeral_iff.mpr rfl).unique (isNumeral_iff.mpr same)
    · intro equal
      rw [equal]
  constructor
  · exact toKey_eq_error_iff
  constructor
  · intro value text
    rw [toKey_eq_ok_iff, value.spells_toData_iff]
  · intro value error
    simp only [toKey_eq_error_iff, value.spells_toData_iff, value.keyRefusal_toData]

/-- A wrapped 7 is the same key as one of another sort, and another key than its negative. -/
theorem sevens_are_one_key :
    (newtypeStruct dateStructName (.signed 7)).unwrapped.integer? = some 7 ∧
    (unsigned 7).unwrapped.integer? = some 7 ∧ (signed (-7)).unwrapped.integer? = some (-7) ∧
    (newtypeStruct dateStructName (.signed 7)).toKey = (unsigned 7).toKey ∧
    (signed (-7)).toKey ≠ (unsigned 7).toKey := by
  rcases keys_follow_grammar with ⟨_, integers, _⟩
  rcases integers (newtypeStruct dateStructName (.signed 7)) (.unsigned 7) 7 7 rfl rfl with
    ⟨text, other, taken, takenToo, sameIff⟩
  rcases integers (.signed (-7)) (.unsigned 7) (-7) 7 rfl rfl with
    ⟨below, above, takenBelow, takenAbove, belowIff⟩
  have same : (newtypeStruct dateStructName (.signed 7)).toKey = (unsigned 7).toKey := by
    rw [taken, takenToo, sameIff.mpr rfl]
  have different : (signed (-7)).toKey ≠ (unsigned 7).toKey := by
    rw [takenBelow, takenAbove]
    intro equal
    exact absurd (belowIff.mp (Except.ok.inj equal)) (by decide)
  exact ⟨rfl, rfl, rfl, same, different⟩

end Data

end ValueSchema
