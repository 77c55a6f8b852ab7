import ValueSchema.Json.OfValue
import ValueSchema.Json.ToValue
import ValueSchema.Proofs.Normalization
import ValueSchema.Proofs.WrittenJson

/-! # What JSON shows of a value

The text of a value is decoded to a view of it: dates and files appear as JSON has them, undefined
and numbers that are not finite have become null or have gone with their entries, and all else
is there, in the same order.
-/

namespace ValueSchema

-- Powers are those of core, also beside a library with powers of its own.
attribute [local instance (2000)] instPowNat

namespace Value

/-! ## Views -/

/-- An optional text, null when there is none. -/
def ofString? : Option String → Value
  | some text => .string text
  | none => .null

/-- A file as an object; its size is the number nearest to it. -/
def fileView (upload : File) : Value :=
  .object
    [("name", ofString? upload.name), ("mime", .string upload.mime),
     ("size", .number (.ofNat upload.size.toNat))]

def leafView : Value → Value
  | .undefined => .null
  | .number n => if n.isFinite then .number n.unsignedZero else .null
  | .date instant => .string (Rfc3339.write instant)
  | .file upload => fileView upload
  | value => value

/-- What is left of a value in its text. Entries that hold undefined are not, and whatever else
JSON does not have is replaced. -/
def view : Value → Value := rebuild leafView fun value => !value.isUndefined

@[simp] theorem view_array (items : List Value) :
    (Value.array items).view = .array (items.map view) :=
  rebuild_array _ _ items

@[simp] theorem view_object (entries : List (String × Value)) :
    (Value.object entries).view =
      .object ((entries.filter fun entry => !entry.2.isUndefined).map fun entry =>
        (entry.1, entry.2.view)) := rebuild_object _ _ entries

/-- A number, unless it is not finite, is an integer below 2^53 in absolute value. -/
def HoldsSmallInteger : Value → Prop
  | .number n => n.isFinite = true →
      ∃ whole : Int, whole.natAbs < 2 ^ (53 : Nat) ∧ n.equal (.ofInt whole) = true
  | _ => True

theorem holdsSmallInteger_number_iff {n : Binary64} :
    HoldsSmallInteger (.number n) ↔ (n.isFinite = true → n.toSmallInt?.isSome = true) := by
  refine forall_congr' fun finite => ?_
  rw [Option.isSome_iff_exists]
  exact exists_congr fun whole => Binary64.toSmallInt?_eq_some_iff.symm

instance : DecidablePred HoldsSmallInteger
  | .number _ => decidable_of_iff _ holdsSmallInteger_number_iff.symm
  | .undefined | .null | .boolean _ | .string _ | .date _ | .file _ | .array _ | .object _ =>
      .isTrue trivial

/-! ## Depth -/

mutual

/-- How many arrays and objects are nested in each other, the value itself included. -/
def depth : Value → Nat
  | .array items => itemsDepth items + 1
  | .object entries => entriesDepth entries + 1
  | _ => 0

def itemsDepth : List Value → Nat
  | [] => 0
  | item :: rest => max item.depth (itemsDepth rest)

def entriesDepth : List (String × Value) → Nat
  | [] => 0
  | (_, value) :: rest => max value.depth (entriesDepth rest)

end

theorem itemsDepth_le_iff {items : List Value} {levels : Nat} :
    itemsDepth items ≤ levels ↔ ∀ item ∈ items, item.depth ≤ levels := by
  induction items with
  | nil => exact iff_of_true (Nat.zero_le levels) (List.forall_mem_nil _)
  | cons item rest induction => rw [itemsDepth, Nat.max_le, induction, List.forall_mem_cons]

theorem entriesDepth_le_iff {entries : List (String × Value)} {levels : Nat} :
    entriesDepth entries ≤ levels ↔ ∀ entry ∈ entries, entry.2.depth ≤ levels := by
  induction entries with
  | nil => exact iff_of_true (Nat.zero_le levels) (List.forall_mem_nil _)
  | cons entry rest induction => rw [entriesDepth, Nat.max_le, induction, List.forall_mem_cons]

/-! ## Trees of values -/

theorem spelled_number_cases {n : Binary64} (holds : HoldsSmallInteger (.number n)) :
    (∃ whole : Int, whole.natAbs < 2 ^ (53 : Nat) ∧ n.toJson.spelled = .integer whole ∧
      (Value.number n).view = .number (.ofInt whole)) ∨
    (n.toJson.spelled = .null ∧ (Value.number n).view = .null) := by
  by_cases finite : n.isFinite = true
  · rcases holds finite with ⟨whole, small, equal⟩
    have integral := Binary64.toSmallInt?_of_equal small equal
    refine .inl ⟨whole, small, ?_, ?_⟩
    · rw [Binary64.toJson, integral]
      rfl
    · rw [Binary64.ofInt_of_toSmallInt? integral]
      exact if_pos finite
  · have notWhole : n.toSmallInt? = none := by
      cases n with
      | finite negative magnitude => exact absurd rfl finite
      | _ => rfl
    refine .inr ⟨?_, if_neg finite⟩
    rw [Binary64.toJson, notWhole]
    exact if_neg finite

theorem legible_file (levels : Nat) (upload : File) :
    upload.toJson.spelled.Legible (levels + 1) := by
  have size : Json.FitsWord upload.size.toNat := by
    have := upload.size.toNat_lt
    constructor <;> omega
  obtain ⟨name, mime, size⟩ := upload
  refine .object (List.forall_mem_cons.mpr ⟨?_, List.forall_mem_cons.mpr
    ⟨.string, List.forall_mem_singleton.mpr (.integer size)⟩⟩)
  cases name with
  | none => exact .null
  | some name => exact .string

/-- The text of a value whose view is shallow enough spells a legible tree. -/
theorem legible_toJson {value : Value} (integers : value.Everywhere HoldsSmallInteger)
    {levels : Nat} (shallow : value.view.depth ≤ levels) :
    value.toJson.spelled.Legible levels := by
  induction value generalizing levels with
  | undefined => exact .null
  | null => exact .null
  | boolean truth => exact .boolean
  | number n =>
      rw [toJson]
      rcases spelled_number_cases integers.here with ⟨whole, small, spelled, _⟩ | ⟨spelled, _⟩
      · rw [spelled]
        exact .integer (by constructor <;> omega)
      · rw [spelled]
        exact .null
  | string text => exact .string
  | date instant => exact .string
  | file upload =>
      cases levels with
      | zero => exact absurd shallow (Nat.not_succ_le_zero _)
      | succ levels => exact legible_file levels upload
  | array items induction =>
      have within := (Everywhere.array_iff.mp integers).2
      rw [view_array, depth] at shallow
      cases levels with
      | zero => exact absurd shallow (Nat.not_succ_le_zero _)
      | succ levels =>
          have each := itemsDepth_le_iff.mp (Nat.le_of_succ_le_succ shallow)
          rw [List.forall_mem_map] at each
          rw [toJson, Json.spelled_array, itemsToJson_eq_map, List.map_map]
          refine .array (List.forall_mem_map.mpr fun item member => ?_)
          exact induction item member (within item member) (each item member)
  | object entries induction =>
      have within := (Everywhere.object_iff.mp integers).2
      rw [view_object, depth] at shallow
      cases levels with
      | zero => exact absurd shallow (Nat.not_succ_le_zero _)
      | succ levels =>
          have each := entriesDepth_le_iff.mp (Nat.le_of_succ_le_succ shallow)
          rw [List.forall_mem_map] at each
          rw [toJson, Json.spelled_object, entriesToJson_eq_map, List.map_map]
          refine .object (List.forall_mem_map.mpr fun entry kept => ?_)
          have member := (List.mem_filter.mp kept).1
          exact induction entry member (within entry member) (each entry kept)

/-- Decoded, the tree that the text of a value spells is the view of the value. -/
theorem toValue_spelled_toJson {value : Value} (wellFormed : value.WellFormed)
    (integers : value.Everywhere HoldsSmallInteger) :
    value.toJson.spelled.toValue .arrival = value.view := by
  induction value with
  | number n =>
      rw [toJson]
      rcases spelled_number_cases integers.here with ⟨whole, _, spelled, view⟩ | ⟨spelled, view⟩
      · rw [spelled, view, Json.toValue]
      · rw [spelled, view, Json.toValue]
  | file upload =>
      obtain ⟨name, mime, size⟩ := upload
      cases name <;> rfl
  | array items induction =>
      have within := (Everywhere.array_iff.mp integers).2
      rw [toJson, Json.spelled_array, Json.toValue_array, itemsToJson_eq_map, List.map_map,
        List.map_map, view_array]
      exact congrArg Value.array (List.map_congr_left fun item member =>
        induction item member (wellFormed.item member) (within item member))
  | object entries induction =>
      have within := (Everywhere.object_iff.mp integers).2
      have distinct := Entries.nodup_names_filter_map wellFormed.distinct
        (fun value => !value.isUndefined) view
      have each : ∀ entry ∈ entries.filter fun entry => !entry.2.isUndefined,
          (entry.1, entry.2.toJson.spelled.toValue .arrival) = (entry.1, entry.2.view) := by
        intro entry kept
        have member := (List.mem_filter.mp kept).1
        rw [induction entry member (wellFormed.entry member) (within entry member)]
      rw [toJson, Json.spelled_object, Json.toValue_object, entriesToJson_eq_map, List.map_map,
        List.map_map, view_object, MemberOrder.arrange]
      rw [← Entries.ofList_of_nodup distinct]
      exact congrArg (fun pairs => Value.object (Entries.ofList pairs)) (List.map_congr_left each)
  | _ => rfl

/-- The text of a value is decoded to its view, if the numbers in it are integers below 2^53
in absolute value, or not finite, and the view is nested at most 127 deep. -/
theorem text_decodes_to_view {value : Value} (wellFormed : value.WellFormed)
    (integers : value.Everywhere HoldsSmallInteger) (shallow : value.view.depth ≤ 127) :
    ofJsonText? .arrival value.toJson.text = some value.view := by
  have sameText : value.toJson.text = value.toJson.spelled.text := by
    rw [Json.text, Json.text, Json.chars_spelled]
  rw [ofJsonText?, sameText, Json.parse?_text (legible_toJson integers shallow), Option.map_some,
    toValue_spelled_toJson wellFormed integers]

private def lastReading : Instant := ⟨1435708799, 1750000000, by decide⟩

private def readings : Value :=
  .object
    [("at", .date lastReading), ("note", .string "\"\\\n\x01é"), ("spare", .undefined),
     ("levels", .array [.number .nan, .number .negativeZero, .undefined, .array []]),
     ("scan", .file ⟨none, "image/png", 9007199254740993⟩)]

theorem readings_decode_to_view :
    readings.WellFormed ∧ readings.Everywhere HoldsSmallInteger ∧ readings.view.depth ≤ 127 ∧
    ofJsonText? .arrival readings.toJson.text = some (.object
      [("at", .string "2015-06-30T23:59:60.750+00:00"), ("note", .string "\"\\\n\x01é"),
       ("levels", .array [.null, .number .zero, .null, .array []]),
       ("scan", .object
        [("name", .null), ("mime", .string "image/png"),
         ("size", .number (.ofNat 9007199254740993))])]) := by
  have wellFormed : readings.WellFormed := by decide
  have integers : readings.Everywhere HoldsSmallInteger := by decide +kernel
  have shallow : readings.view.depth ≤ 127 := by decide
  have decoded := text_decodes_to_view wellFormed integers shallow
  refine ⟨wellFormed, integers, shallow, decoded.trans ?_⟩
  rfl

end Value

end ValueSchema
