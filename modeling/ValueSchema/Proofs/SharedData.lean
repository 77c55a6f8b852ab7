import ValueSchema.Proofs.DataMeaning

/-! # Data converted and read

Data can be converted to a value, and a value can be read from data that describes itself. Where
both can be done, both come to what the data means.
-/

namespace ValueSchema.Data

/-! ## Keys -/

/-- Keys that convert and read alike. -/
inductive IsText : Data → Prop
  | char {c} : IsText (.char c)
  | string {text} : IsText (.string text)

theorem IsText.toKey_eq {key : Data} (isText : key.IsText) : key.toKey = .ok key.meantName := by
  cases isText <;> rfl

theorem IsText.readString_eq {key : Data} (isText : key.IsText) :
    key.readString = .ok key.meantName := by
  cases isText <;> rfl

/-! ## Shared data -/

/-- Data without wide integers, bytes, wrappers, variants, single calls and failures, in which all
keys are texts and no struct stands for a file. -/
inductive Shared : Data → Prop
  | boolean {truth} : Shared (.boolean truth)
  | signed {n} : Shared (.signed n)
  | unsigned {n} : Shared (.unsigned n)
  | float {n} : Shared (.float n)
  | char {c} : Shared (.char c)
  | string {text} : Shared (.string text)
  | absent : Shared .absent
  | present {inner} (inside : Shared inner) : Shared (.present inner)
  | unit : Shared .unit
  | unitStruct {name} : Shared (.unitStruct name)
  | sequence {items} (each : ∀ item ∈ items, Shared item) : Shared (.sequence items)
  | map {entries : List (Data × Data)} (keys : ∀ entry ∈ entries, IsText entry.1)
      (each : ∀ entry ∈ entries, Shared entry.2) : Shared (.map entries)
  | struct {name} {fields : List (String × Data)} (ordinary : name ≠ fileStructName)
      (each : ∀ field ∈ fields, Shared field.2) : Shared (.struct name fields)

/-! ## Lists of parts -/

section

variable {ε : Type} {nameOf : Data → Except ε String} {convert : Data → Except ε Value}

theorem mapM_items_eq_meaning {items : List Data}
    (each : ∀ item ∈ items, convert item = .ok item.meaning) :
    items.mapM convert = .ok (itemsMeaning items) := by
  rw [itemsMeaning_eq_map]
  exact mapM_eq_ok each

theorem mapM_fields_eq_meaning {fields : List (String × Data)}
    (each : ∀ field ∈ fields, convert field.2 = .ok field.2.meaning) :
    (fields.mapM fun field => (convert field.2).map (field.1, ·)) = .ok (fieldsMeaning fields) := by
  rw [fieldsMeaning_eq_map]
  refine mapM_eq_ok fun field member => ?_
  rw [each field member]
  rfl

theorem mapM_entries_eq_meaning {entries : List (Data × Data)}
    (keys : ∀ entry ∈ entries, nameOf entry.1 = .ok entry.1.meantName)
    (each : ∀ entry ∈ entries, convert entry.2 = .ok entry.2.meaning) :
    (entries.mapM fun entry =>
      (nameOf entry.1).bind fun name => (convert entry.2).map (name, ·)) =
        .ok (entriesMeaning entries) := by
  rw [entriesMeaning_eq_map]
  exact mapM_entries_eq_ok keys each

end

/-! ## Agreement -/

namespace Shared

variable {data : Data}

theorem toValue_eq (shared : data.Shared) : data.toValue = .ok data.meaning := by
  induction shared with
  | present _ induction => exact induction
  | sequence _ induction =>
      rw [toValue, itemsToValues_eq_mapM, mapM_items_eq_meaning induction]
      rfl
  | map keys _ induction =>
      have names := fun entry member => (keys entry member).toKey_eq
      rw [toValue, entriesToPairs_eq_mapM, mapM_entries_eq_meaning names induction]
      rfl
  | struct ordinary _ induction =>
      rw [toValue, fieldsToPairs_eq_mapM, mapM_fields_eq_meaning induction, meaning,
        if_neg ordinary]
      exact if_neg ordinary
  | _ => rfl

theorem readValue_eq (shared : data.Shared) : data.readValue = .ok data.meaning := by
  induction shared with
  | present _ induction => exact induction
  | sequence _ induction =>
      rw [readValue, readItems_eq_mapM, mapM_items_eq_meaning induction]
      rfl
  | map keys _ induction =>
      have names := fun entry member => (keys entry member).readString_eq
      rw [readValue, readEntries_eq_mapM, mapM_entries_eq_meaning names induction]
      rfl
  | struct ordinary _ induction =>
      rw [readValue, readFields_eq_mapM, mapM_fields_eq_meaning induction, meaning,
        if_neg ordinary]
      rfl
  | _ => rfl

end Shared

/-- Shared data is converted and read to one and the same value, that which it means. -/
theorem reading_agrees_with_conversion {data : Data} (shared : data.Shared) :
    data.toValue = .ok data.meaning ∧ data.readValue = .ok data.meaning :=
  ⟨shared.toValue_eq, shared.readValue_eq⟩

private def ledger : Data :=
  .struct "Ledger"
    [("owner", .present (.string "ada")), ("closed", .absent),
     ("rows", .map
      [(.string "a", .signed (-3)), (.char 'b', .float .nan),
       (.char 'a', .sequence [.unitStruct "Gap", .unsigned 18446744073709551615])]),
     ("owner", .boolean true)]

private def ledgerValue : Value :=
  .object
    [("owner", .boolean true), ("closed", .null),
     ("rows", .object
      [("a", .array [.null, .number (.ofNat 18446744073709551615)]), ("b", .number .nan)])]

private theorem ledger_shared : ledger.Shared := by
  have gaps : (Data.sequence [.unitStruct "Gap", .unsigned 18446744073709551615]).Shared :=
    .sequence (List.forall_mem_cons.mpr ⟨.unitStruct, List.forall_mem_singleton.mpr .unsigned⟩)
  have rows : (Data.map
      [(.string "a", .signed (-3)), (.char 'b', .float .nan),
       (.char 'a', .sequence [.unitStruct "Gap", .unsigned 18446744073709551615])]).Shared := by
    refine .map ?_ ?_
    · exact List.forall_mem_cons.mpr
        ⟨.string, List.forall_mem_cons.mpr ⟨.char, List.forall_mem_singleton.mpr .char⟩⟩
    · exact List.forall_mem_cons.mpr
        ⟨.signed, List.forall_mem_cons.mpr ⟨.float, List.forall_mem_singleton.mpr gaps⟩⟩
  refine .struct (by decide) (List.forall_mem_cons.mpr ⟨.present .string, ?_⟩)
  exact List.forall_mem_cons.mpr
    ⟨.absent, List.forall_mem_cons.mpr ⟨rows, List.forall_mem_singleton.mpr .boolean⟩⟩

theorem ledger_reads_as_converted :
    ledger.Shared ∧ ledger.toValue = .ok ledgerValue ∧ ledger.readValue = .ok ledgerValue :=
  ⟨ledger_shared, reading_agrees_with_conversion ledger_shared⟩

end ValueSchema.Data
