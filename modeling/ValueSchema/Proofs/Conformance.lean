import ValueSchema.Proofs.Failures

/-! # Conformance

What it means for a value to have the declared shape, said without any order of checks,
and that validation passes exactly the values that have it.
-/

namespace ValueSchema

def Constraint.Holds {α : Type} (constraint : Constraint α) (subject : α) : Prop :=
  constraint.check subject = .ok ()

@[simp] theorem Constraint.holds_ofPredicate_iff {α : Type} {name : String} {holds : α → Bool}
    {message : α → String} {subject : α} :
    (ofPredicate name holds message).Holds subject ↔ holds subject = true := by
  simp [Holds, ofPredicate]

namespace Schema

/-- The value has the declared shape: its kind is the declared one, all constraints hold of
it, and its parts have the shapes declared for them. -/
inductive Conforms : Schema → Value → Prop
  | string {constraints text} (holds : ∀ constraint ∈ constraints, constraint.Holds text) :
      Conforms (.string constraints) (.string text)
  | number {constraints n} (holds : ∀ constraint ∈ constraints, constraint.Holds n) :
      Conforms (.number constraints) (.number n)
  | boolean {truth} : Conforms .boolean (.boolean truth)
  | date {instant} : Conforms .date (.date instant)
  | file {constraints upload} (holds : ∀ constraint ∈ constraints, constraint.Holds upload) :
      Conforms (.file constraints) (.file upload)
  | literal {literals text} (member : text ∈ literals) :
      Conforms (.literal literals) (.string text)
  | absent {inner} : Conforms (.optional inner) .undefined
  | optional {inner value} (within : Conforms inner value) : Conforms (.optional inner) value
  | null {inner} : Conforms (.nullable inner) .null
  | nullable {inner value} (within : Conforms inner value) : Conforms (.nullable inner) value
  | array {item constraints items} (elements : ∀ element ∈ items, Conforms item element)
      (holds : ∀ constraint ∈ constraints, constraint.Holds items) :
      Conforms (.array item constraints) (.array items)
  | object {fields : List (String × Schema)} {entries}
      (present : ∀ field ∈ fields, field.2.isOptional = false →
        field.1 ∈ Entries.names entries)
      (stored : ∀ field ∈ fields, Conforms field.2 (Value.stored entries field.1)) :
      Conforms (.object fields) (.object entries)

@[simp] theorem conforms_string_iff {constraints : List (Constraint String)} {text : String} :
    (Schema.string constraints).Conforms (.string text) ↔
      ∀ constraint ∈ constraints, constraint.Holds text := by
  constructor
  · intro conforms
    cases conforms with
    | string holds => exact holds
  · exact .string

@[simp] theorem conforms_number_iff {constraints : List (Constraint Binary64)} {n : Binary64} :
    (Schema.number constraints).Conforms (.number n) ↔
      ∀ constraint ∈ constraints, constraint.Holds n := by
  constructor
  · intro conforms
    cases conforms with
    | number holds => exact holds
  · exact .number

@[simp] theorem conforms_file_iff {constraints : List (Constraint File)} {upload : File} :
    (Schema.file constraints).Conforms (.file upload) ↔
      ∀ constraint ∈ constraints, constraint.Holds upload := by
  constructor
  · intro conforms
    cases conforms with
    | file holds => exact holds
  · exact .file

@[simp] theorem conforms_literal_iff {literals : List String} {text : String} :
    (Schema.literal literals).Conforms (.string text) ↔ text ∈ literals := by
  constructor
  · intro conforms
    cases conforms with
    | literal member => exact member
  · exact .literal

theorem conforms_optional_iff {inner : Schema} {value : Value} (defined : value ≠ .undefined) :
    (Schema.optional inner).Conforms value ↔ inner.Conforms value := by
  constructor
  · intro conforms
    cases conforms with
    | absent => exact absurd rfl defined
    | optional within => exact within
  · exact .optional

theorem conforms_nullable_iff {inner : Schema} {value : Value} (notNull : value ≠ .null) :
    (Schema.nullable inner).Conforms value ↔ inner.Conforms value := by
  constructor
  · intro conforms
    cases conforms with
    | null => exact absurd rfl notNull
    | nullable within => exact within
  · exact .nullable

@[simp] theorem conforms_array_iff {item : Schema} {constraints : List (Constraint (List Value))}
    {items : List Value} :
    (Schema.array item constraints).Conforms (.array items) ↔
      (∀ element ∈ items, item.Conforms element) ∧
        ∀ constraint ∈ constraints, constraint.Holds items := by
  constructor
  · intro conforms
    cases conforms with
    | array elements holds => exact ⟨elements, holds⟩
  · rintro ⟨elements, holds⟩
    exact .array elements holds

@[simp] theorem conforms_object_iff {fields : List (String × Schema)}
    {entries : List (String × Value)} :
    (Schema.object fields).Conforms (.object entries) ↔
      (∀ field ∈ fields, field.2.isOptional = false →
        field.1 ∈ Entries.names entries) ∧
        ∀ field ∈ fields, field.2.Conforms (Value.stored entries field.1) := by
  constructor
  · intro conforms
    cases conforms with
    | object present stored => exact ⟨present, stored⟩
  · rintro ⟨present, stored⟩
    exact .object present stored

/-! ## Values without failures -/

@[simp] theorem violations_eq_nil_iff {α : Type} (constraints : List (Constraint α)) (subject : α) :
    violations constraints subject = [] ↔
      ∀ constraint ∈ constraints, constraint.Holds subject := by
  rw [violations, List.filterMap_eq_nil_iff]
  apply forall₂_congr
  intro constraint _
  rw [Constraint.Holds]
  cases constraint.check subject with
  | ok => exact ⟨fun _ => rfl, fun _ => rfl⟩
  | error error => simp

theorem itemFailures_eq_nil_iff (item : Schema) (items : List Value) :
    (items.zipIdx.flatMap fun entry =>
        (item.failures entry.1).map (·.under (toString entry.2))) = [] ↔
      ∀ element ∈ items, item.failures element = [] := by
  simp only [List.flatMap_eq_nil_iff, List.map_eq_nil_iff]
  constructor
  · intro none element member
    rcases List.mem_iff_getElem?.mp member with ⟨position, found⟩
    exact none (element, position) (List.mem_zipIdx_iff_getElem?.mpr found)
  · intro none entry member
    exact none entry.1 (List.mem_of_getElem? (List.mem_zipIdx_iff_getElem?.mp member))

theorem absentNames_eq_nil_iff (fields : List (String × Schema))
    (entries : List (String × Value)) :
    absentNames fields entries = [] ↔
      ∀ field ∈ fields, field.2.isOptional = false → field.1 ∈ Entries.names entries := by
  rw [absentNames, Entries.names, List.map_eq_nil_iff, List.filter_eq_nil_iff]
  apply forall₂_congr
  intro field _
  cases field.2.isOptional <;> simp

/-- There is no failure exactly when the value has the declared shape. -/
@[simp] theorem failures_eq_nil_iff (schema : Schema) (value : Value) :
    schema.failures value = [] ↔ schema.Conforms value := by
  induction schema generalizing value with
  | string constraints =>
      cases value with
      | string text => rw [failures, violations_eq_nil_iff, conforms_string_iff]
      | _ =>
          apply iff_of_false (List.cons_ne_nil _ _)
          intro conforms
          cases conforms
  | number constraints =>
      cases value with
      | number n => rw [failures, violations_eq_nil_iff, conforms_number_iff]
      | _ =>
          apply iff_of_false (List.cons_ne_nil _ _)
          intro conforms
          cases conforms
  | boolean =>
      cases value with
      | boolean truth => exact iff_of_true rfl .boolean
      | _ =>
          apply iff_of_false (List.cons_ne_nil _ _)
          intro conforms
          cases conforms
  | date =>
      cases value with
      | date instant => exact iff_of_true rfl .date
      | _ =>
          apply iff_of_false (List.cons_ne_nil _ _)
          intro conforms
          cases conforms
  | file constraints =>
      cases value with
      | file upload => rw [failures, violations_eq_nil_iff, conforms_file_iff]
      | _ =>
          apply iff_of_false (List.cons_ne_nil _ _)
          intro conforms
          cases conforms
  | literal literals =>
      cases value with
      | string text =>
          rw [failures, conforms_literal_iff]
          by_cases member : text ∈ literals
          · exact iff_of_true (if_pos member) member
          · rw [if_neg member]
            exact iff_of_false (List.cons_ne_nil _ _) member
      | _ =>
          apply iff_of_false (List.cons_ne_nil _ _)
          intro conforms
          cases conforms
  | optional inner induction =>
      by_cases undefined : value = .undefined
      · subst undefined
        exact iff_of_true rfl .absent
      · rw [failures_optional inner undefined, conforms_optional_iff undefined]
        exact induction value
  | nullable inner induction =>
      by_cases null : value = .null
      · subst null
        exact iff_of_true rfl .null
      · rw [failures_nullable inner null, conforms_nullable_iff null]
        exact induction value
  | array item constraints induction =>
      cases value with
      | array items =>
          rw [failures, List.append_eq_nil_iff, itemFailures_eq_nil_iff, violations_eq_nil_iff,
            conforms_array_iff]
          simp only [induction]
      | _ =>
          apply iff_of_false (List.cons_ne_nil _ _)
          intro conforms
          cases conforms
  | object fields induction =>
      cases value with
      | object entries =>
          have stored : fieldFailures fields entries = [] ↔
              ∀ field ∈ fields, field.2.Conforms (Value.stored entries field.1) := by
            simp only [fieldFailures_eq_flatMap, List.flatMap_eq_nil_iff, List.map_eq_nil_iff]
            exact forall₂_congr fun field member => induction field member _
          rw [failures, conforms_object_iff, ← absentNames_eq_nil_iff, ← stored]
          by_cases absent : absentNames fields entries = []
          · rw [if_pos absent]
            exact (and_iff_right absent).symm
          · rw [if_neg absent]
            exact iff_of_false (List.cons_ne_nil _ _) fun both => absent both.1
      | _ =>
          apply iff_of_false (List.cons_ne_nil _ _)
          intro conforms
          cases conforms

@[simp] theorem accepts_iff_conforms (schema : Schema) (value : Value) :
    schema.accepts value = true ↔ schema.Conforms value :=
  (schema.accepts_iff_failures_eq_nil value).trans (schema.failures_eq_nil_iff value)

/-- Validation returns a value exactly when the value conforms, and then returns that value
itself. -/
theorem validate_eq_ok_iff_conforms (schema : Schema) (value result : Value) :
    schema.validate value = .ok result ↔ result = value ∧ schema.Conforms value := by
  rw [validate_eq_ok_iff, failures_eq_nil_iff]

end Schema

end ValueSchema
