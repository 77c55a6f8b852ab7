import ValueSchema.Number.Binary64

/-!
The fewest decimal digits that identify a number of double precision, and their layout.
-/

namespace ValueSchema

-- Powers are those of core, also beside a library with powers of its own.
attribute [local instance (2000)] instPowNat

/-- The decimal `digits * 10 ^ exponent`. -/
structure Decimal where
  digits : Nat
  exponent : Int
  deriving DecidableEq

/-- Which of two equally near decimals is taken. -/
inductive Tie where
  | up
  | even
  deriving DecidableEq

namespace Magnitude

/-! ## The decimals that read back

The numbers that round to a magnitude form an interval, which reaches half way to each
neighbour and holds its ends exactly when the significand is even. Everything below counts
in quarters of a least unit, so that both ends are whole. -/

/-- The distance to the neighbour above. -/
def gap (magnitude : Magnitude) : Nat := 2 ^ (magnitude.units.log2 - 52)

/-- Twice the distance to the neighbour below, which is nearer at a power of two. -/
def twiceGapBelow (magnitude : Magnitude) : Nat :=
  if magnitude.gap = 1 ∨ magnitude.units ≠ 2 ^ magnitude.units.log2 then 2 * magnitude.gap
  else magnitude.gap

/-- A decimal against a whole number of quarter units. -/
def compareQuarters (decimal : Decimal) (quarters : Nat) : Ordering :=
  compare (decimal.digits * 10 ^ decimal.exponent.toNat * (4 * one))
    (quarters * 10 ^ (-decimal.exponent).toNat)

/-- Whether a decimal rounds to the magnitude. -/
def readsBack (magnitude : Magnitude) (decimal : Decimal) : Bool :=
  let closed := magnitude.units / magnitude.gap % 2 = 0
  let lower := compareQuarters decimal (4 * magnitude.units - magnitude.twiceGapBelow)
  let upper := compareQuarters decimal (4 * magnitude.units + 2 * magnitude.gap)
  (lower = .gt ∨ closed ∧ lower = .eq) ∧ (upper = .lt ∨ closed ∧ upper = .eq)

/-! ## The search -/

/-- The least power of ten above a magnitude that is not zero. Every magnitude exceeds
`10 ^ (-340)`, so shifting by that power leaves a whole part to count the digits of. -/
def scale (magnitude : Magnitude) : Int :=
  ((Nat.toDigits 10 (magnitude.units * 10 ^ (340 : Nat) / one)).length : Int) - 340

/-- The nearer of the two neighbours of the magnitude on the grid `10 ^ exponent`, among
those that read back. -/
def nearestOnGrid (tie : Tie) (magnitude : Magnitude) (exponent : Int) : Option Decimal :=
  let digits := magnitude.units * 10 ^ (-exponent).toNat / (one * 10 ^ exponent.toNat)
  let below : Decimal := ⟨digits, exponent⟩
  let above : Decimal := ⟨digits + 1, exponent⟩
  match magnitude.readsBack below, magnitude.readsBack above with
  | false, false => none
  | true, false => some below
  | false, true => some above
  | true, true =>
      match compareQuarters ⟨2 * digits + 1, exponent⟩ (8 * magnitude.units), tie with
      | .gt, _ => some below
      | .lt, _ => some above
      | .eq, .up => some above
      | .eq, .even => if digits % 2 = 0 then some below else some above

/-- Drops the zeros at the end of the digits, at most as many as `fuel` says. -/
def dropZeros : Nat → Decimal → Decimal
  | 0, decimal => decimal
  | fuel + 1, decimal =>
      if decimal.digits % 10 = 0 then
        dropZeros fuel ⟨decimal.digits / 10, decimal.exponent + 1⟩
      else decimal

/-- The decimal of fewest digits that rounds to the magnitude; of several the nearest.
Seventeen digits are always enough; the exact value stands behind them. -/
def shortest (tie : Tie) (magnitude : Magnitude) : Decimal :=
  let found := (List.range 17).findSome? fun (extra : Nat) =>
    magnitude.nearestOnGrid tie (magnitude.scale - 1 - extra)
  dropZeros 17 (found.getD ⟨magnitude.units * 5 ^ (1074 : Nat), -1074⟩)

end Magnitude

namespace Decimal

/-! ## Layout -/

/-- The power of ten that the first digit counts. -/
def leadingExponent (decimal : Decimal) : Int :=
  (Nat.toDigits 10 decimal.digits).length - 1 + decimal.exponent

/-- Positional layout, without a point when the decimal is whole. -/
def positional (decimal : Decimal) : List Char :=
  let digits := Nat.toDigits 10 decimal.digits
  if 0 ≤ decimal.exponent then digits ++ List.replicate decimal.exponent.toNat '0'
  else
    let places := (-decimal.exponent).toNat
    if places < digits.length then
      digits.take (digits.length - places) ++ '.' :: digits.drop (digits.length - places)
    else '0' :: '.' :: List.replicate (places - digits.length) '0' ++ digits

/-- One digit, the others after a point, and the exponent with its sign. -/
def scientific (decimal : Decimal) : List Char :=
  let exponent := decimal.leadingExponent
  let mantissa := match Nat.toDigits 10 decimal.digits with
    | first :: second :: rest => first :: '.' :: second :: rest
    | digits => digits
  mantissa ++ 'e' :: (if exponent < 0 then '-' else '+') :: Nat.toDigits 10 exponent.natAbs

end Decimal

namespace Binary64

private def signText (negative : Bool) : List Char := if negative then ['-'] else []

/-- The text of a number: its fewest digits in positional layout, whatever its size. -/
def text : Binary64 → String
  | .nan => "NaN"
  | .infinite negative => String.ofList (signText negative ++ ['i', 'n', 'f'])
  | .finite negative magnitude =>
      let digits := if magnitude.units = 0 then ['0'] else (magnitude.shortest .up).positional
      String.ofList (signText negative ++ digits)

/-- The text of a finite number with a point or an exponent, so that it cannot be taken for
an integer; positional from `10 ^ (-5)` up to below `10 ^ 16`. -/
def fractionalText : Binary64 → Option String
  | .nan | .infinite _ => none
  | .finite negative magnitude =>
      let decimal := if magnitude.units = 0 then ⟨0, 0⟩ else magnitude.shortest .even
      let digits :=
        if decimal.leadingExponent < -5 ∨ 16 ≤ decimal.leadingExponent then decimal.scientific
        else if 0 ≤ decimal.exponent then decimal.positional ++ ['.', '0']
        else decimal.positional
      some (String.ofList (signText negative ++ digits))

end Binary64

end ValueSchema
