import ValueSchema.Data.Reading
import ValueSchema.Proofs.Conformance
import ValueSchema.Proofs.Normalization
import ValueSchema.Verification

/-! # Files and dates handed over

Data has neither files nor dates: the size of a file becomes a number on the way, and a date
becomes a text. So a file comes back as it was exactly when a number holds its size, and a
date exactly when its year needs no sign and a clock shows it.
-/

namespace ValueSchema

-- Powers are those of core, also beside a library with powers of its own.
attribute [local instance (2000)] instPowNat

theorem Schema.isOk_verify (schema : Schema) {data : Data} {value : Value}
    (converted : data.toValue = .ok value) :
    (schema.verify data).isOk = schema.accepts value := by
  rw [verify_eq_validate schema converted, accepts]
  cases schema.validate value <;> rfl

/-! ## Files -/

namespace File

/-- The size of the file is a number of double precision, or the greatest size there is. -/
def HasHeldSize (upload : File) : Prop :=
  FitsSignificand upload.size.toNat ∨ upload.size.toNat = 2 ^ (64 : Nat) - 1

theorem hasHeldSize_iff (upload : File) :
    upload.HasHeldSize ↔ (Binary64.ofNat upload.size.toNat).toWord = upload.size :=
  Binary64.toWord_ofNat_iff.symm

theorem toValue_toData_eq_self_iff (upload : File) :
    upload.toData.toValue = .ok (.file upload) ↔ upload.HasHeldSize := by
  rw [toValue_toData, hasHeldSize_iff]
  constructor
  · intro same
    cases upload
    simpa using same
  · intro held
    rw [held]

theorem accepts_greatestSize_iff (bound : UInt64) (upload : File) :
    (Schema.file [.greatestSize bound]).accepts (.file upload) = true ↔ upload.size ≤ bound := by
  rw [Schema.accepts_iff_conforms, Schema.conforms_file_iff, List.forall_mem_singleton,
    Constraint.greatestSize, Constraint.holds_ofPredicate_iff, decide_eq_true_iff]

/-- Files that pass the same bounds are of one size. -/
theorem size_eq_of_accepts_eq {upload : File} {size : UInt64}
    (sameBounds : ∀ bound,
      (Schema.file [.greatestSize bound]).accepts (.file { upload with size }) =
        (Schema.file [.greatestSize bound]).accepts (.file upload)) :
    size = upload.size := by
  have within (bound : UInt64) : size ≤ bound ↔ upload.size ≤ bound := by
    rw [← accepts_greatestSize_iff bound upload, ← sameBounds]
    exact (accepts_greatestSize_iff bound { upload with size }).symm
  exact UInt64.le_antisymm ((within _).mpr UInt64.le_rfl) ((within _).mp UInt64.le_rfl)

theorem hasHeldSize_of_bounds {upload : File}
    (sameBounds : ∀ bound, ((Schema.file [.greatestSize bound]).verify upload.toData).isOk =
      (Schema.file [.greatestSize bound]).accepts (.file upload)) :
    upload.HasHeldSize := by
  rw [hasHeldSize_iff]
  refine size_eq_of_accepts_eq fun bound => ?_
  rw [← sameBounds, Schema.isOk_verify _ upload.toValue_toData]

/-- A file always comes back with its name and its type. It comes back as it was, every
schema for files finds in it what it would have found before, and every bound on the size
lets it pass as before, exactly when a number holds its size. -/
theorem comes_back_iff_hasHeldSize (upload : File) :
    (∃ size, upload.toData.toValue = .ok (.file { upload with size })) ∧
    (upload.toData.toValue = .ok (.file upload) ↔ upload.HasHeldSize) ∧
    ((∀ constraints, (Schema.file constraints).verify upload.toData =
        ((Schema.file constraints).validate (.file upload)).map fun _ => ()) ↔
      upload.HasHeldSize) ∧
    ((∀ bound, ((Schema.file [.greatestSize bound]).verify upload.toData).isOk =
        (Schema.file [.greatestSize bound]).accepts (.file upload)) ↔
      upload.HasHeldSize) := by
  have comesBack := upload.toValue_toData_eq_self_iff
  refine ⟨⟨_, upload.toValue_toData⟩, comesBack, ?_, ?_⟩
  · constructor
    · intro sameResult
      refine hasHeldSize_of_bounds fun bound => ?_
      rw [sameResult, Schema.accepts]
      cases (Schema.file [.greatestSize bound]).validate (.file upload) <;> rfl
    · intro held constraints
      exact Schema.verify_eq_validate _ (comesBack.mpr held)
  · constructor
    · exact hasHeldSize_of_bounds
    · intro held bound
      exact Schema.isOk_verify _ (comesBack.mpr held)

private def recording : File := ⟨none, "video/mp4", 9007199254740993⟩

/-- A file of 2^53 + 1 bytes comes back one byte shorter, and so passes where it should not. -/
theorem recording_loses_a_byte :
    recording.toData.toValue = .ok (.file { recording with size := 9007199254740992 }) ∧
    recording.toData.toValue ≠ .ok (.file recording) ∧
    (Schema.file [.greatestSize 9007199254740992]).verify recording.toData = .ok () ∧
    (Schema.file [.greatestSize 9007199254740992]).validate (.file recording) =
      .error (.violation "size_max" ("file size 9007199254740993 bytes is greater than " ++
        "the maximum of 9007199254740992 bytes")) := by
  have rounded : (Binary64.ofNat recording.size.toNat).toWord = 9007199254740992 := by
    decide +kernel
  have shortened : recording.toData.toValue =
      .ok (.file { recording with size := 9007199254740992 }) := by
    rw [recording.toValue_toData, rounded]
  refine ⟨shortened, ?_, ?_, rfl⟩
  · rw [shortened]
    simp [recording]
  · rw [Schema.verify_eq_validate _ shortened]
    rfl

end File

/-! ## Dates -/

namespace Instant

/-- A date of the years 0 to 9999 comes back as a clock shows it, converted from data or read
from its text. Any other is refused by both, for the sign in front of its year. So the dates
that come back as they were are those in these years that a clock shows. -/
theorem comes_back_iff_unsigned_onClock (instant : Instant) :
    instant.toData.toValue =
      (if 0 ≤ instant.day.year ∧ instant.day.year ≤ 9999 then .ok (.date instant.carried)
        else .error (.unreadableDate (Rfc3339.write instant) .invalid)) ∧
    (Data.string (Rfc3339.write instant)).readDate =
      (if 0 ≤ instant.day.year ∧ instant.day.year ≤ 9999 then .ok instant.carried
        else .error (.unreadableDate .invalid)) ∧
    (instant.toData.toValue = .ok (.date instant) ↔
      (0 ≤ instant.day.year ∧ instant.day.year ≤ 9999) ∧ instant.OnClock) ∧
    ((Data.string (Rfc3339.write instant)).readDate = .ok instant ↔
      (0 ≤ instant.day.year ∧ instant.day.year ≤ 9999) ∧ instant.OnClock) := by
  have converted := instant.toValue_toData
  have read : (Data.string (Rfc3339.write instant)).readDate =
      if 0 ≤ instant.day.year ∧ instant.day.year ≤ 9999 then .ok instant.carried
      else .error (.unreadableDate .invalid) := by
    rw [Data.readDate, Data.readString, Except.bind, Rfc3339.read_write]
    split <;> rfl
  refine ⟨converted, read, ?_, ?_⟩
  · rw [converted, ← carried_eq_self_iff]
    split
    next unsigned => simp [unsigned]
    next signed => simp [signed]
  · rw [read, ← carried_eq_self_iff]
    split
    next unsigned => simp [unsigned]
    next signed => simp [signed]

example :
    let beyond : Instant := ⟨1714607764, 1333333333, by decide⟩
    Rfc3339.write beyond = "2024-05-01T23:56:05.333333333+00:00" ∧
      beyond.toData.toValue = .ok (.date ⟨1714607765, 333333333, by decide⟩) := ⟨rfl, rfl⟩

private def tenThousand : Instant := ⟨253402300800, 0, by decide⟩

/-- The first moment of the year 10000 does not come back. -/
theorem year_ten_thousand_is_refused :
    Rfc3339.write tenThousand = "+10000-01-01T00:00:00+00:00" ∧
    tenThousand.toData.toValue =
      .error (.unreadableDate "+10000-01-01T00:00:00+00:00" .invalid) ∧
    tenThousand.toData.toValue ≠ .ok (.date tenThousand) ∧
    (Data.string (Rfc3339.write tenThousand)).readDate = .error (.unreadableDate .invalid) ∧
    (Data.string (Rfc3339.write tenThousand)).readDate ≠ .ok tenThousand := by
  have written : Rfc3339.write tenThousand = "+10000-01-01T00:00:00+00:00" := by rfl
  have signed : ¬(0 ≤ tenThousand.day.year ∧ tenThousand.day.year ≤ 9999) := by decide
  have converted : tenThousand.toData.toValue =
      .error (.unreadableDate "+10000-01-01T00:00:00+00:00" .invalid) := by
    rw [toValue_toData, if_neg signed, written]
  have read : (Data.string (Rfc3339.write tenThousand)).readDate =
      .error (.unreadableDate .invalid) := by
    rw [written]
    rfl
  rw [converted, read]
  exact ⟨written, rfl, by simp, rfl, by simp⟩

end Instant

end ValueSchema
