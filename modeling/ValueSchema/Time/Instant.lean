/-!
Moments of universal time. A leap second has no count of its own: it is written as the
second before it with a billion nanoseconds more. A clock shows one at the end of a minute
only, but a moment can hold as many nanoseconds in any second.
-/

namespace ValueSchema

/-- Seconds since the start of 1970 and nanoseconds into the second. -/
structure Instant where
  seconds : Int
  nanoseconds : Nat
  valid : nanoseconds < 2000000000
  deriving DecidableEq

namespace Instant

/-- A clock shows the moment: a billion nanoseconds or more are a leap second, and so they
belong to the last second of a minute. -/
def OnClock (instant : Instant) : Prop :=
  instant.nanoseconds < 1000000000 ∨ instant.seconds % 60 = 59

instance (instant : Instant) : Decidable instant.OnClock :=
  inferInstanceAs (Decidable (_ ∨ _))

/-- The moment that a clock shows with these parts, if there is one. -/
def ofParts? (seconds : Int) (nanoseconds : Nat) : Option Instant :=
  if shown : nanoseconds < 2000000000 ∧ (nanoseconds < 1000000000 ∨ seconds % 60 = 59) then
    some ⟨seconds, nanoseconds, shown.1⟩
  else none

theorem ofParts?_eq_some_iff {seconds : Int} {nanoseconds : Nat} {instant : Instant} :
    ofParts? seconds nanoseconds = some instant ↔
      instant.OnClock ∧ instant.seconds = seconds ∧ instant.nanoseconds = nanoseconds := by
  rw [ofParts?]
  constructor
  · intro made
    by_cases shown : nanoseconds < 2000000000 ∧ (nanoseconds < 1000000000 ∨ seconds % 60 = 59)
    · rw [dif_pos shown] at made
      cases made
      exact ⟨shown.2, rfl, rfl⟩
    · rw [dif_neg shown] at made
      cases made
  · rintro ⟨onClock, rfl, rfl⟩
    exact dif_pos ⟨instant.valid, onClock⟩

end Instant

end ValueSchema
