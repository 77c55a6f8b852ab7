import ValueSchema.Proofs.ExactNumbers
import ValueSchema.Proofs.ValueTree
import ValueSchema.Proofs.WrittenMoments

/-! # Normal values

A value that is handed over as data and turned into a value again comes back normalized:
undefined has become null or has gone with its entry, zeros have no sign, and all else is
as it was, at every depth and in the same order. Only a date that no clock shows comes back
as the one that its text names.
-/

namespace ValueSchema

-- Powers are those of core, also beside a library with powers of its own.
attribute [local instance (2000)] instPowNat

namespace Value

def normalLeaf : Value → Value
  | .undefined => .null
  | .number n => .number n.unsignedZero
  | value => value

/-- Entries that hold undefined are dropped; elsewhere undefined is null. Zeros lose their
sign. -/
def normal : Value → Value := rebuild normalLeaf fun value => !value.isUndefined

@[simp] theorem normal_array (items : List Value) :
    (Value.array items).normal = .array (items.map normal) := rebuild_array _ _ items

@[simp] theorem normal_object (entries : List (String × Value)) :
    (Value.object entries).normal =
      .object ((entries.filter fun entry => !entry.2.isUndefined).map fun entry =>
        (entry.1, entry.2.normal)) := rebuild_object _ _ entries

/-- The value with every date in it as a clock shows it. -/
def carried : Value → Value := rebuild (mapDate Instant.carried) fun _ => true

@[simp] theorem carried_array (items : List Value) :
    (Value.array items).carried = .array (items.map carried) := rebuild_array _ _ items

@[simp] theorem carried_object (entries : List (String × Value)) :
    (Value.object entries).carried =
      .object (entries.map fun entry => (entry.1, entry.2.carried)) :=
  rebuild_object_keeping _ entries

@[simp] theorem kind_carried (value : Value) : value.carried.kind = value.kind := by
  cases value <;> rfl

/-- Messages name a date by its text. -/
@[simp] theorem description_carried (value : Value) :
    value.carried.description = value.description := by
  cases value with
  | date instant => exact Rfc3339.write_carried instant
  | array items => simp [description]
  | object entries => simp [description]
  | _ => rfl

/-- A date lies in the years that are written with four digits and no sign. -/
def hasFourDigitYear : Value → Bool
  | .date instant => 0 ≤ instant.day.year ∧ instant.day.year ≤ 9999
  | _ => true

/-- A date is one that a clock shows. -/
def hasClockTime : Value → Bool
  | .date instant => instant.OnClock
  | _ => true

/-- The size of a file is that of a number near it, read off as a size again. -/
def hasNumericSize : Value → Bool
  | .file upload => (Binary64.ofNat upload.size.toNat).toWord = upload.size
  | _ => true

def hasSmallSize : Value → Bool
  | .file upload => upload.size.toNat ≤ 2 ^ (53 : Nat)
  | _ => true

@[simp] theorem hasFourDigitYear_date_iff (instant : Instant) :
    (Value.date instant).hasFourDigitYear = true ↔
      0 ≤ instant.day.year ∧ instant.day.year ≤ 9999 := by
  rw [hasFourDigitYear, decide_eq_true_iff]

@[simp] theorem hasClockTime_date_iff (instant : Instant) :
    (Value.date instant).hasClockTime = true ↔ instant.OnClock := by
  rw [hasClockTime, decide_eq_true_iff]

@[simp] theorem hasNumericSize_file_iff (upload : File) :
    (Value.file upload).hasNumericSize = true ↔
      (Binary64.ofNat upload.size.toNat).toWord = upload.size := by
  rw [hasNumericSize, decide_eq_true_iff]

theorem hasNumericSize_of_hasSmallSize (value : Value) (small : value.hasSmallSize = true) :
    value.hasNumericSize = true := by
  cases value with
  | file upload =>
      rw [hasSmallSize, decide_eq_true_iff] at small
      rw [hasNumericSize_file_iff, Binary64.toWord_ofNat small]
  | _ => rfl

theorem carried_eq_self {value : Value} (times : value.Everywhere (·.hasClockTime)) :
    value.carried = value := by
  have unchanged : value.carried = value.rebuild id fun _ => true := by
    refine rebuild_congr (times.imp fun part partTime => ?_)
    cases part with
    | date instant =>
        rw [hasClockTime_date_iff] at partTime
        exact ⟨congrArg Value.date (Instant.carried_eq_self_iff.mpr partTime), rfl⟩
    | _ => exact ⟨rfl, rfl⟩
  exact unchanged.trans value.rebuild_id

theorem hasClockTime_normal {value : Value} (times : value.Everywhere (·.hasClockTime)) :
    value.normal.Everywhere (·.hasClockTime) := by
  induction value with
  | date instant => exact times
  | array items induction =>
      have within := (Everywhere.array_iff.mp times).2
      rw [normal_array, Everywhere.array_iff, List.forall_mem_map]
      exact ⟨rfl, fun item member => induction item member (within item member)⟩
  | object entries induction =>
      have within := (Everywhere.object_iff.mp times).2
      rw [normal_object, Everywhere.object_iff, List.forall_mem_map]
      refine ⟨rfl, fun entry kept => ?_⟩
      have member := (List.mem_filter.mp kept).1
      exact induction entry member (within entry member)
  | _ => exact (Everywhere.simple_iff rfl).mpr rfl

end Value

/-! ## Dates and files -/

theorem Instant.toValue_toData (instant : Instant) :
    instant.toData.toValue =
      if 0 ≤ instant.day.year ∧ instant.day.year ≤ 9999 then .ok (.date instant.carried)
      else .error (.unreadableDate (Rfc3339.write instant) .invalid) := by
  have opened : instant.toData.toValue = dateOfValue (.string (Rfc3339.write instant)) := by
    rw [toData, Data.toValue, if_pos rfl, Data.toValue, Except.bind]
  rw [opened, dateOfValue, Rfc3339.read_write]
  by_cases unsigned : 0 ≤ instant.day.year ∧ instant.day.year ≤ 9999
  · rw [if_pos unsigned, if_pos unsigned]
  · rw [if_neg unsigned, if_neg unsigned]

theorem fileOfEntries_eq {size : Binary64} (readable : Binary64.zero.atMost size = true)
    (name : Value) (mime : String) :
    fileOfEntries [("name", name), ("mime", .string mime), ("size", .number size)] =
      .ok (.file ⟨name.string?, mime, size.toWord⟩) := by
  have sizeKept : Option.filter Binary64.zero.atMost (some size) = some size := if_pos readable
  simp [fileOfEntries, Entries.find?, Value.string?, Value.number?, sizeKept]

theorem toValue_fileStruct {fields : List (String × Data)} {pairs : List (String × Value)}
    (converted : fieldsToPairs fields = .ok pairs) (distinct : (Entries.names pairs).Nodup) :
    (Data.struct fileStructName fields).toValue = fileOfEntries pairs := by
  rw [Data.toValue, converted, Except.bind, if_pos rfl, Entries.ofList_of_nodup distinct]

/-- A file comes back with its size rounded to a number and read off again. -/
theorem File.toValue_toData (file : File) :
    file.toData.toValue =
      .ok (.file ⟨file.name, file.mime, (Binary64.ofNat file.size.toNat).toWord⟩) := by
  have readable := Binary64.zero_atMost_ofNat file.size.toNat
  obtain ⟨name, mime, size⟩ := file
  cases name with
  | none =>
      have distinct : (Entries.names [("name", Value.null), ("mime", .string mime),
        ("size", .number (.ofNat size.toNat))]).Nodup := by simp [Entries.names]
      exact (toValue_fileStruct rfl distinct).trans (fileOfEntries_eq readable _ mime)
  | some name =>
      have distinct : (Entries.names [("name", Value.string name), ("mime", .string mime),
        ("size", .number (.ofNat size.toNat))]).Nodup := by simp [Entries.names]
      exact (toValue_fileStruct rfl distinct).trans (fileOfEntries_eq readable _ mime)

/-! ## Lists -/

theorem itemsToValues_itemsToData (become : Value → Value) {items : List Value}
    (each : ∀ item ∈ items, item.toData.toValue = .ok (become item)) :
    itemsToValues (itemsToData items) = .ok (items.map become) := by
  induction items with
  | nil => rfl
  | cons item rest induction =>
      rw [List.forall_mem_cons] at each
      rw [itemsToData, itemsToValues, each.1, induction each.2]
      rfl

theorem entriesToPairs_entriesToData (become : Value → Value)
    {entries : List (String × Value)}
    (each : ∀ entry ∈ entries, entry.2.toData.toValue = .ok (become entry.2)) :
    entriesToPairs (entriesToData entries) =
      .ok ((entries.filter fun entry => !entry.2.isUndefined).map fun entry =>
        (entry.1, become entry.2)) := by
  induction entries with
  | nil => rfl
  | cons entry rest induction =>
      obtain ⟨name, value⟩ := entry
      rw [List.forall_mem_cons] at each
      rw [entriesToData, List.filter_cons]
      cases value.isUndefined with
      | true => exact induction each.2
      | false =>
          rw [if_neg Bool.false_ne_true, entriesToPairs, Data.toKey, each.1, induction each.2]
          rfl

/-! ## Values -/

namespace Value

theorem toValue_toData {value : Value} (wellFormed : value.WellFormed)
    (years : value.Everywhere (·.hasFourDigitYear))
    (sizes : value.Everywhere (·.hasNumericSize)) :
    value.toData.toValue = .ok value.normal.carried := by
  induction value with
  | undefined => rfl
  | null => rfl
  | boolean truth => rfl
  | number n => exact n.toValue_toData
  | string text => rfl
  | date instant =>
      have year := (hasFourDigitYear_date_iff instant).mp years.here
      rw [toData, Instant.toValue_toData, if_pos year]
      rfl
  | file upload =>
      have size := (hasNumericSize_file_iff upload).mp sizes.here
      rw [toData, File.toValue_toData, size]
      rfl
  | array items induction =>
      have each : ∀ item ∈ items, item.toData.toValue = .ok item.normal.carried :=
        fun item member =>
          induction item member (wellFormed.item member)
            ((Everywhere.array_iff.mp years).2 item member)
            ((Everywhere.array_iff.mp sizes).2 item member)
      rw [toData, Data.toValue, itemsToValues_itemsToData _ each, normal_array,
        carried_array, List.map_map]
      rfl
  | object entries induction =>
      have each : ∀ entry ∈ entries, entry.2.toData.toValue = .ok entry.2.normal.carried :=
        fun entry member =>
          induction entry member (wellFormed.entry member)
            ((Everywhere.object_iff.mp years).2 entry member)
            ((Everywhere.object_iff.mp sizes).2 entry member)
      have distinct := Entries.nodup_names_filter_map wellFormed.distinct
        (fun value => !value.isUndefined) fun value => value.normal.carried
      rw [toData, Data.toValue,
        entriesToPairs_entriesToData (fun value => value.normal.carried) each, Except.map, ofPairs,
        Entries.ofList_of_nodup distinct, normal_object, carried_object, List.map_map]
      rfl

theorem toValue_toData_of_clockTimes {value : Value} (wellFormed : value.WellFormed)
    (years : value.Everywhere (·.hasFourDigitYear))
    (times : value.Everywhere (·.hasClockTime))
    (sizes : value.Everywhere (·.hasNumericSize)) :
    value.toData.toValue = .ok value.normal := by
  rw [toValue_toData wellFormed years sizes, carried_eq_self (hasClockTime_normal times)]

/-- With dates of the years 0 to 9999 and files of up to 2^53 bytes, a value that has been
data comes back in its normal form, with its dates as a clock shows them. If a clock shows
them as they are, that is the normal form and nothing else. -/
theorem conversion_normalizes {value : Value} (wellFormed : value.WellFormed)
    (years : value.Everywhere (·.hasFourDigitYear))
    (sizes : value.Everywhere (·.hasSmallSize)) :
    value.toData.toValue = .ok value.normal.carried ∧
    (value.Everywhere (·.hasClockTime) → value.toData.toValue = .ok value.normal) := by
  have numericSizes := sizes.imp hasNumericSize_of_hasSmallSize
  constructor
  · exact toValue_toData wellFormed years numericSizes
  · intro times
    exact toValue_toData_of_clockTimes wellFormed years times numericSizes

private def leapSecond : Instant := ⟨1483228799, 1250000000, by decide⟩

private def delivery : Value :=
  .object
    [("sent", .date leapSecond), ("signed", .undefined),
     ("scans", .array
      [.file ⟨some "a.png", "image/png", 9007199254740992⟩, .undefined,
       .object [("left", .undefined), ("right", .number .negativeZero)], .number .nan])]

theorem delivery_comes_back_normal :
    delivery.WellFormed ∧ delivery.Everywhere (·.hasFourDigitYear) ∧
    delivery.Everywhere (·.hasSmallSize) ∧ delivery.Everywhere (·.hasClockTime) ∧
    delivery.toData.toValue = .ok (.object
      [("sent", .date leapSecond),
       ("scans", .array
        [.file ⟨some "a.png", "image/png", 9007199254740992⟩, .null,
         .object [("right", .number .zero)], .number .nan])]) := by
  have wellFormed : delivery.WellFormed := by decide
  have years : delivery.Everywhere (·.hasFourDigitYear) := by decide
  have sizes : delivery.Everywhere (·.hasSmallSize) := by decide
  have times : delivery.Everywhere (·.hasClockTime) := by decide
  exact ⟨wellFormed, years, sizes, times,
    (conversion_normalizes wellFormed years sizes).2 times⟩

end Value

end ValueSchema
