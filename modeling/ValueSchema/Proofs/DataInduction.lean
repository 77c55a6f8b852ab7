import ValueSchema.Data.Reading
import ValueSchema.Data.ToValue

/-! # Data as trees

Induction over the nesting of data, and its conversion and reading part by part: every part of a
converted value is what one of the parts that were handed over is converted to.
-/

namespace ValueSchema

namespace Data

/-- Induction over data, in which the hypotheses about lists speak of each member, of both
sides of an entry, and of what each call hands over. -/
@[induction_eliminator]
theorem nested {motive : Data → Prop}
    (boolean : ∀ truth, motive (.boolean truth))
    (signed : ∀ n, motive (.signed n))
    (unsigned : ∀ n, motive (.unsigned n))
    (wideSigned : ∀ n, motive (.wideSigned n))
    (wideUnsigned : ∀ n, motive (.wideUnsigned n))
    (float : ∀ n, motive (.float n))
    (char : ∀ c, motive (.char c))
    (string : ∀ text, motive (.string text))
    (bytes : ∀ encoded, motive (.bytes encoded))
    (absent : motive .absent)
    (present : ∀ inner, motive inner → motive (.present inner))
    (unit : motive .unit)
    (unitStruct : ∀ name, motive (.unitStruct name))
    (newtypeStruct : ∀ name inner, motive inner → motive (.newtypeStruct name inner))
    (unitVariant : ∀ variant, motive (.unitVariant variant))
    (newtypeVariant : ∀ variant inner, motive inner → motive (.newtypeVariant variant inner))
    (tupleVariant : ∀ variant items, (∀ item ∈ items, motive item) →
      motive (.tupleVariant variant items))
    (structVariant : ∀ variant fields, (∀ field ∈ fields, motive field.2) →
      motive (.structVariant variant fields))
    (sequence : ∀ items, (∀ item ∈ items, motive item) → motive (.sequence items))
    (map : ∀ entries, (∀ entry ∈ entries, motive entry.1 ∧ motive entry.2) →
      motive (.map entries))
    (mapCalls : ∀ calls, (∀ call ∈ calls, motive call.2) → motive (.mapCalls calls))
    (struct : ∀ name fields, (∀ field ∈ fields, motive field.2) → motive (.struct name fields))
    (failure : ∀ message, motive (.failure message))
    (data : Data) : motive data := by
  refine @Data.rec motive (fun items => ∀ item ∈ items, motive item)
    (fun fields => ∀ field ∈ fields, motive field.2)
    (fun entries => ∀ entry ∈ entries, motive entry.1 ∧ motive entry.2)
    (fun calls => ∀ call ∈ calls, motive call.2) (fun field => motive field.2)
    (fun entry => motive entry.1 ∧ motive entry.2) (fun call => motive call.2)
    boolean signed unsigned wideSigned wideUnsigned float char string bytes absent present unit
    unitStruct newtypeStruct unitVariant newtypeVariant tupleVariant structVariant sequence map
    mapCalls struct failure ?_ ?_ ?_ ?_ ?_ ?_ ?_ ?_ ?_ ?_ ?_ data
  -- A list of each sort is empty or has a first member; the members that are pairs follow.
  · exact List.forall_mem_nil _
  · intro _ _ first rest
    exact List.forall_mem_cons.mpr ⟨first, rest⟩
  · exact List.forall_mem_nil _
  · intro _ _ first rest
    exact List.forall_mem_cons.mpr ⟨first, rest⟩
  · exact List.forall_mem_nil _
  · intro _ _ first rest
    exact List.forall_mem_cons.mpr ⟨first, rest⟩
  · exact List.forall_mem_nil _
  · intro _ _ first rest
    exact List.forall_mem_cons.mpr ⟨first, rest⟩
  · intro _ _ holds
    exact holds
  · intro _ _ key entry
    exact ⟨key, entry⟩
  · intro _ _ holds
    exact holds

end Data

/-! ## Lists of parts -/

theorem itemsToValues_eq_mapM (items : List Data) :
    itemsToValues items = items.mapM Data.toValue := by
  induction items with
  | nil => rfl
  | cons item rest induction =>
      rw [itemsToValues, List.mapM_cons, induction]
      rfl

theorem fieldsToPairs_eq_mapM (fields : List (String × Data)) :
    fieldsToPairs fields = fields.mapM fun field => field.2.toValue.map (field.1, ·) := by
  induction fields with
  | nil => rfl
  | cons field rest induction =>
      obtain ⟨name, data⟩ := field
      rw [fieldsToPairs, List.mapM_cons, induction]
      cases data.toValue <;> rfl

theorem entriesToPairs_eq_mapM (entries : List (Data × Data)) :
    entriesToPairs entries = entries.mapM fun entry =>
      entry.1.toKey.bind fun name => entry.2.toValue.map (name, ·) := by
  induction entries with
  | nil => rfl
  | cons entry rest induction =>
      obtain ⟨key, data⟩ := entry
      rw [entriesToPairs, List.mapM_cons, induction]
      cases key.toKey with
      | error fault => rfl
      | ok name => cases data.toValue <;> rfl

theorem readItems_eq_mapM (items : List Data) :
    Data.readItems items = items.mapM Data.readValue := by
  induction items with
  | nil => rfl
  | cons item rest induction =>
      rw [Data.readItems, List.mapM_cons, induction]
      rfl

theorem readFields_eq_mapM (fields : List (String × Data)) :
    Data.readFields fields = fields.mapM fun field => field.2.readValue.map (field.1, ·) := by
  induction fields with
  | nil => rfl
  | cons field rest induction =>
      obtain ⟨name, data⟩ := field
      rw [Data.readFields, List.mapM_cons, induction]
      cases data.readValue <;> rfl

theorem readEntries_eq_mapM (entries : List (Data × Data)) :
    Data.readEntries entries = entries.mapM fun entry =>
      entry.1.readString.bind fun name => entry.2.readValue.map (name, ·) := by
  induction entries with
  | nil => rfl
  | cons entry rest induction =>
      obtain ⟨key, data⟩ := entry
      rw [Data.readEntries, List.mapM_cons, induction]
      cases key.readString with
      | error fault => rfl
      | ok name => cases data.readValue <;> rfl

theorem mapM_eq_ok {ε α β : Type} {convert : α → Except ε β} {result : α → β} {sources : List α}
    (each : ∀ source ∈ sources, convert source = .ok (result source)) :
    sources.mapM convert = .ok (sources.map result) := by
  induction sources with
  | nil => rfl
  | cons source rest induction =>
      rw [List.forall_mem_cons] at each
      rw [List.mapM_cons, each.1, induction each.2]
      rfl

theorem mapM_entries_eq_ok {ε : Type} {readName : Data → Except ε String}
    {convert : Data → Except ε Value} {entries : List (Data × Data)} {nameOf : Data → String}
    {valueOf : Data → Value} (names : ∀ entry ∈ entries, readName entry.1 = .ok (nameOf entry.1))
    (values : ∀ entry ∈ entries, convert entry.2 = .ok (valueOf entry.2)) :
    (entries.mapM fun entry =>
      (readName entry.1).bind fun name => (convert entry.2).map (name, ·)) =
        .ok (entries.map fun entry => (nameOf entry.1, valueOf entry.2)) := by
  apply mapM_eq_ok
  intro entry member
  rw [names entry member, values entry member]
  rfl

/-! ## Converted parts

What holds of everything that the parts can be converted to holds of what they are converted
to together. -/

theorem Except.bind_eq_ok_iff {ε α β : Type} {first : Except ε α} {next : α → Except ε β}
    {result : β} :
    first.bind next = .ok result ↔ ∃ value, first = .ok value ∧ next value = .ok result := by
  cases first <;> simp [Except.bind]

theorem Except.map_eq_ok_iff {ε α β : Type} {first : Except ε α} {change : α → β}
    {result : β} :
    first.map change = .ok result ↔ ∃ value, first = .ok value ∧ change value = result := by
  cases first <;> simp [Except.map]

theorem Except.mapError_eq_error_iff {ε δ α : Type} {first : Except ε α} {change : ε → δ}
    {result : δ} :
    first.mapError change = .error result ↔
      ∃ fault, first = .error fault ∧ change fault = result := by
  cases first with
  | ok value =>
      constructor
      · intro failed
        cases failed
      · rintro ⟨_, failed, _⟩
        cases failed
  | error fault =>
      constructor
      · intro failed
        cases failed
        exact ⟨fault, rfl, rfl⟩
      · rintro ⟨_, ⟨⟩, rfl⟩
        rfl

variable {demand : Value → Prop}

theorem forall_of_mapM {ε α β : Type} {convert : α → Except ε β} {demand : β → Prop}
    {sources : List α} {results : List β} (converted : sources.mapM convert = .ok results)
    (each : ∀ source ∈ sources, ∀ {result}, convert source = .ok result → demand result) :
    ∀ result ∈ results, demand result := by
  induction sources generalizing results with
  | nil =>
      cases converted
      exact List.forall_mem_nil _
  | cons source rest induction =>
      rw [List.forall_mem_cons] at each
      rw [List.mapM_cons] at converted
      rcases Except.bind_eq_ok_iff.mp converted with ⟨first, firstConverted, restConverted⟩
      rcases Except.bind_eq_ok_iff.mp restConverted with ⟨others, othersConverted, ⟨⟩⟩
      exact List.forall_mem_cons.mpr
        ⟨each.1 firstConverted, induction othersConverted each.2⟩

theorem forall_of_mapM_fields {ε : Type} {convert : Data → Except ε Value}
    {fields : List (String × Data)} {pairs : List (String × Value)}
    (converted : (fields.mapM fun field => (convert field.2).map (field.1, ·)) = .ok pairs)
    (each : ∀ field ∈ fields, ∀ {value}, convert field.2 = .ok value → demand value) :
    ∀ pair ∈ pairs, demand pair.2 := by
  refine forall_of_mapM converted fun field member _ fieldConverted => ?_
  rcases Except.map_eq_ok_iff.mp fieldConverted with ⟨value, valueConverted, rfl⟩
  exact each field member valueConverted

theorem forall_of_mapM_entries {ε : Type} {nameOf : Data → Except ε String}
    {convert : Data → Except ε Value} {entries : List (Data × Data)}
    {pairs : List (String × Value)}
    (converted : (entries.mapM fun entry =>
      (nameOf entry.1).bind fun name => (convert entry.2).map (name, ·)) = .ok pairs)
    (each : ∀ entry ∈ entries, ∀ {value}, convert entry.2 = .ok value → demand value) :
    ∀ pair ∈ pairs, demand pair.2 := by
  refine forall_of_mapM converted fun entry member _ entryConverted => ?_
  rcases Except.bind_eq_ok_iff.mp entryConverted with ⟨name, _, entryConverted⟩
  rcases Except.map_eq_ok_iff.mp entryConverted with ⟨value, valueConverted, rfl⟩
  exact each entry member valueConverted

theorem forall_of_itemsToValues {items : List Data} {values : List Value}
    (converted : itemsToValues items = .ok values)
    (each : ∀ item ∈ items, ∀ {value}, item.toValue = .ok value → demand value) :
    ∀ value ∈ values, demand value := by
  rw [itemsToValues_eq_mapM] at converted
  exact forall_of_mapM converted each

theorem forall_of_fieldsToPairs {fields : List (String × Data)} {pairs : List (String × Value)}
    (converted : fieldsToPairs fields = .ok pairs)
    (each : ∀ field ∈ fields, ∀ {value}, field.2.toValue = .ok value → demand value) :
    ∀ pair ∈ pairs, demand pair.2 := by
  rw [fieldsToPairs_eq_mapM] at converted
  exact forall_of_mapM_fields converted each

theorem forall_of_entriesToPairs {entries : List (Data × Data)} {pairs : List (String × Value)}
    (converted : entriesToPairs entries = .ok pairs)
    (each : ∀ entry ∈ entries, ∀ {value}, entry.2.toValue = .ok value → demand value) :
    ∀ pair ∈ pairs, demand pair.2 := by
  rw [entriesToPairs_eq_mapM] at converted
  exact forall_of_mapM_entries converted each

theorem forall_of_callsToPairs {waiting : Option String} {calls : List (MapPart × Data)}
    {pairs : List (String × Value)} (converted : callsToPairs waiting calls = .ok pairs)
    (each : ∀ entry, (.value, entry) ∈ calls → ∀ {value}, entry.toValue = .ok value →
      demand value) :
    ∀ pair ∈ pairs, demand pair.2 := by
  induction calls generalizing waiting pairs with
  | nil =>
      cases converted
      exact List.forall_mem_nil _
  | cons call rest induction =>
      obtain ⟨part, data⟩ := call
      have later : ∀ entry, (.value, entry) ∈ rest → ∀ {value}, entry.toValue = .ok value →
          demand value := fun entry member => each entry (List.mem_cons_of_mem _ member)
      cases part with
      | key =>
          rw [callsToPairs] at converted
          rcases Except.bind_eq_ok_iff.mp converted with ⟨name, _, restConverted⟩
          exact induction restConverted later
      | value =>
          cases waiting with
          | none => cases converted
          | some name =>
              rw [callsToPairs] at converted
              rcases Except.bind_eq_ok_iff.mp converted with ⟨value, source, restConverted⟩
              rcases Except.map_eq_ok_iff.mp restConverted with ⟨others, othersConverted, rfl⟩
              exact List.forall_mem_cons.mpr
                ⟨each data List.mem_cons_self source, induction othersConverted later⟩

end ValueSchema
