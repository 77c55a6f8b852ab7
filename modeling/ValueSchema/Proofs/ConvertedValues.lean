import ValueSchema.Proofs.Normalization
import ValueSchema.Proofs.ValueSources

/-! # Converted values

What data is converted to is settled: it holds no undefined, no name twice in one object, no
date that no clock shows, and no file whose size would change on the way through a number. A
settled value loses nothing but the signs of its zeros when it is handed over as data and
converted again.
-/

namespace ValueSchema

namespace Value

/-! ## Settled values -/

/-- The value is not undefined, its entries have distinct names, a clock shows its date, and
its size is one that comes back through a number. -/
def isSettled (value : Value) : Bool :=
  !value.isUndefined && value.hasDistinctNames && value.hasClockTime && value.hasNumericSize

/-- Every part of the value is settled. -/
def Settled (value : Value) : Prop := value.Everywhere (·.isSettled)

@[simp] theorem isSettled_iff (value : Value) :
    value.isSettled = true ↔
      value.isUndefined = false ∧ value.hasDistinctNames = true ∧
        value.hasClockTime = true ∧ value.hasNumericSize = true := by
  simp [isSettled, and_assoc]

namespace Settled

variable {value : Value}

theorem defined (settled : value.Settled) : value.Everywhere (·.isUndefined = false) :=
  settled.imp fun part settled => ((isSettled_iff part).mp settled).1

theorem wellFormed (settled : value.Settled) : value.WellFormed :=
  settled.imp fun part settled => ((isSettled_iff part).mp settled).2.1

theorem clockTimes (settled : value.Settled) : value.Everywhere (·.hasClockTime) :=
  settled.imp fun part settled => ((isSettled_iff part).mp settled).2.2.1

theorem numericSizes (settled : value.Settled) : value.Everywhere (·.hasNumericSize) :=
  settled.imp fun part settled => ((isSettled_iff part).mp settled).2.2.2

end Settled

end Value

namespace Data

/-- A clock shows the dates, since they have been read from texts, and the size of a file comes
back, since it has been read off a number once. -/
theorem Makes.isSettled {data : Data} {value : Value} (makes : data.Makes value) :
    value.isSettled = true := by
  rw [Value.isSettled_iff]
  cases makes with
  | ordinary ordinary distinct =>
      cases value with
      | undefined => cases ordinary
      | file upload => cases ordinary
      | date instant => cases ordinary
      | _ => exact ⟨rfl, distinct, rfl, rfl⟩
  | date _ converted =>
      rcases Except.bind_eq_ok_iff.mp ((if_pos rfl).symm.trans converted) with
        ⟨text, _, finished⟩
      rcases exists_instant_of_dateOfValue finished with ⟨instant, ⟨⟩, onClock⟩
      exact ⟨rfl, rfl, (Value.hasClockTime_date_iff _).mpr onClock, rfl⟩
  | file _ converted =>
      rcases Except.bind_eq_ok_iff.mp converted with ⟨pairs, _, finished⟩
      rcases exists_size_of_fileOfEntries ((if_pos rfl).symm.trans finished) with
        ⟨mime, size, ⟨⟩⟩
      have sizeBack := Binary64.toWord_ofNat_toWord size
      exact ⟨rfl, rfl, rfl, (Value.hasNumericSize_file_iff _).mpr sizeBack⟩

/-- Whatever data is converted to is settled. -/
theorem settled_of_toValue {data : Data} {value : Value} (converted : data.toValue = .ok value) :
    value.Settled :=
  (makes_of_toValue converted).imp fun _ makes => makes.isSettled

end Data

/-! ## Signs of zeros -/

namespace Value

/-- The value with the signs of its zeros dropped. -/
def unsignedZeros : Value → Value := rebuild (mapNumber Binary64.unsignedZero) fun _ => true

@[simp] theorem unsignedZeros_array (items : List Value) :
    (Value.array items).unsignedZeros = .array (items.map unsignedZeros) := rebuild_array _ _ items

@[simp] theorem unsignedZeros_object (entries : List (String × Value)) :
    (Value.object entries).unsignedZeros =
      .object (entries.map fun entry => (entry.1, entry.2.unsignedZeros)) :=
  rebuild_object_keeping _ entries

@[simp] theorem isUndefined_unsignedZeros (value : Value) :
    value.unsignedZeros.isUndefined = value.isUndefined := by
  cases value <;> rfl

/-- Data does not tell a zero with a sign from one without. -/
theorem toData_unsignedZeros (value : Value) : value.unsignedZeros.toData = value.toData := by
  induction value with
  | number n => exact n.toData_unsignedZero
  | array items induction =>
      simp only [unsignedZeros_array, toData, itemsToData_eq_map, List.map_map]
      exact congrArg Data.sequence (List.map_congr_left induction)
  | object entries induction =>
      simp only [unsignedZeros_object, toData, entriesToData_eq_map, List.filter_map, List.map_map]
      have sameKept : (entries.filter ((fun entry => !entry.2.isUndefined) ∘ fun entry =>
          (entry.1, entry.2.unsignedZeros))) = entries.filter fun entry => !entry.2.isUndefined :=
        List.filter_congr fun entry _ => congrArg not (isUndefined_unsignedZeros entry.2)
      rw [sameKept]
      refine congrArg Data.map (List.map_congr_left fun entry kept => ?_)
      exact congrArg (Data.string entry.1, ·) (induction entry (List.mem_filter.mp kept).1)
  | _ => rfl

theorem normal_eq_unsignedZeros {value : Value}
    (defined : value.Everywhere (·.isUndefined = false)) :
    value.normal = value.unsignedZeros := by
  refine rebuild_congr (defined.imp fun part defined => ?_)
  cases part with
  | undefined => cases defined
  | _ => exact ⟨rfl, rfl⟩

end Value

namespace Data

/-- What has been converted once stays as it is when it is converted again, but for the signs
of its zeros; after that it stays entirely. -/
theorem conversion_idempotent {data : Data} {value : Value}
    (converted : data.toValue = .ok value) (years : value.Everywhere (·.hasFourDigitYear)) :
    value.toData.toValue = .ok value.unsignedZeros ∧
    value.unsignedZeros.toData.toValue = .ok value.unsignedZeros := by
  have settled := settled_of_toValue converted
  have again : value.toData.toValue = .ok value.unsignedZeros := by
    rw [Value.toValue_toData_of_clockTimes settled.wellFormed years settled.clockTimes
      settled.numericSizes, Value.normal_eq_unsignedZeros settled.defined]
  refine ⟨again, ?_⟩
  rw [Value.toData_unsignedZeros]
  exact again

private def parcel : Data :=
  .struct "Parcel"
    [("sent", .newtypeStruct dateStructName (.string "2016-12-31T23:59:60.5Z")),
     ("scan", .struct fileStructName
       [("mime", .string "image/png"), ("size", .float (.infinite false))]),
     ("weights", .map [(.signed 7, .float .negativeZero), (.string "7", .wideSigned (-3)),
       (.char 'a', .float .negativeZero)]),
     ("service", .newtypeVariant "Express" (.bytes [1, 2])),
     ("note", .absent)]

private def parcelValue : Value :=
  .object
    [("sent", .date ⟨1483228799, 1500000000, by decide⟩),
     ("scan", .file ⟨none, "image/png", 18446744073709551615⟩),
     ("weights", .object [("7", .number (.ofInt (-3))), ("a", .number .negativeZero)]),
     ("service", .object [("Express", .array [.number (.ofNat 1), .number (.ofNat 2)])]),
     ("note", .null)]

theorem parcel_converted_twice :
    parcel.toValue = .ok parcelValue ∧ parcelValue.Everywhere (·.hasFourDigitYear) ∧
    parcelValue.toData.toValue = .ok parcelValue.unsignedZeros ∧
    parcelValue.unsignedZeros.toData.toValue = .ok parcelValue.unsignedZeros := by
  have converted : parcel.toValue = .ok parcelValue := by rfl
  have years : parcelValue.Everywhere (·.hasFourDigitYear) := by decide
  exact ⟨converted, years, conversion_idempotent converted years⟩

end Data

end ValueSchema
