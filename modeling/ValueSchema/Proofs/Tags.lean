import ValueSchema.Proofs.Conformance

/-! # Optional and nullable schemas

The tags are read off a schema without running it. They tell exactly whether undefined and
null pass, so the names that an object requires are those whose schemas refuse undefined.
-/

namespace ValueSchema.Schema

@[simp] theorem conforms_undefined_iff (schema : Schema) :
    schema.Conforms .undefined ↔ schema.isOptional = true := by
  induction schema with
  | optional inner _ => exact ⟨fun _ => rfl, fun _ => .absent⟩
  | nullable inner induction =>
      have notNull : Value.undefined ≠ .null := nofun
      rw [conforms_nullable_iff notNull, induction, isOptional]
  | _ =>
      refine iff_of_false ?_ Bool.false_ne_true
      intro conforms
      cases conforms

@[simp] theorem conforms_null_iff (schema : Schema) :
    schema.Conforms .null ↔ schema.isNullable = true := by
  induction schema with
  | optional inner induction =>
      have defined : Value.null ≠ .undefined := nofun
      rw [conforms_optional_iff defined, induction, isNullable]
  | nullable inner _ => exact ⟨fun _ => rfl, fun _ => .null⟩
  | _ =>
      refine iff_of_false ?_ Bool.false_ne_true
      intro conforms
      cases conforms

theorem isOptional_eq_accepts (schema : Schema) :
    schema.isOptional = schema.accepts .undefined := by
  rw [Bool.eq_iff_iff, accepts_iff_conforms, conforms_undefined_iff]

theorem isNullable_eq_accepts (schema : Schema) :
    schema.isNullable = schema.accepts .null := by
  rw [Bool.eq_iff_iff, accepts_iff_conforms, conforms_null_iff]

/-! ## Required names -/

/-- The presence of required names needs no rule of its own: an absent one reads as
undefined, which its schema refuses. -/
theorem conforms_object_iff_stored (fields : List (String × Schema))
    (entries : List (String × Value)) :
    (Schema.object fields).Conforms (.object entries) ↔
      ∀ field ∈ fields, field.2.Conforms (Value.stored entries field.1) := by
  rw [conforms_object_iff]
  refine and_iff_right_of_imp ?_
  intro stored field member required
  apply Classical.byContradiction
  intro absent
  have conforms := stored field member
  rw [Value.stored, (Entries.find?_eq_none_iff entries field.1).mpr absent,
    Option.getD_none, conforms_undefined_iff, required] at conforms
  cases conforms

theorem mem_requiredNames_iff {fields : List (String × Schema)}
    (distinct : (Entries.names fields).Nodup) {field : String × Schema}
    (member : field ∈ fields) :
    field.1 ∈ requiredNames fields ↔ field.2.isOptional = false := by
  rw [requiredNames, Entries.names, List.mem_map]
  constructor
  · intro named
    rcases named with ⟨other, otherMember, sameName⟩
    rcases List.mem_filter.mp otherMember with ⟨otherMember, required⟩
    have found := (Entries.find?_eq_some_iff distinct field.1 field.2).mpr member
    have otherFound := (Entries.find?_eq_some_iff distinct other.1 other.2).mpr otherMember
    rw [sameName, found] at otherFound
    rw [Option.some.inj otherFound]
    simpa using required
  · intro required
    exact ⟨field, List.mem_filter.mpr ⟨member, by simp [required]⟩, rfl⟩

/-- An entry that holds undefined counts like one that is not there. -/
theorem stored_insert_undefined (entries : List (String × Value)) (name other : String) :
    Value.stored (Entries.insert entries name .undefined) other =
      Value.stored (entries.filter fun entry => entry.1 ≠ name) other := by
  rw [Value.stored, Value.stored, Entries.find?_insert, Entries.find?_filter_ne]
  by_cases same : name = other
  · rw [if_pos same, if_pos same]
    rfl
  · rw [if_neg same, if_neg same]

/-- Undefined and null pass exactly where the tags say so. So an object requires, in
declaration order, the names whose schemas refuse undefined, a field accepts undefined
exactly when it may be absent, and an entry that holds undefined is as good as none. -/
theorem tags_agree_with_acceptance :
    (∀ schema : Schema,
      schema.isOptional = schema.accepts .undefined ∧
        schema.isNullable = schema.accepts .null) ∧
    (∀ fields : List (String × Schema),
      requiredNames fields =
        Entries.names (fields.filter fun field => !field.2.accepts .undefined)) ∧
    (∀ declarations : List (String × Schema), ∀ field ∈ Entries.ofList declarations,
      field.2.accepts .undefined = true ↔
        field.1 ∉ requiredNames (Entries.ofList declarations)) ∧
    (∀ (fields : List (String × Schema)) (entries : List (String × Value)) (name : String),
      (Schema.object fields).accepts (.object (Entries.insert entries name .undefined)) =
        (Schema.object fields).accepts
          (.object (entries.filter fun entry => entry.1 ≠ name))) := by
  refine ⟨?_, ?_, ?_, ?_⟩
  · intro schema
    exact ⟨schema.isOptional_eq_accepts, schema.isNullable_eq_accepts⟩
  · intro fields
    simp only [requiredNames, isOptional_eq_accepts]
  · intro declarations field member
    have distinct := Entries.nodup_names_ofList declarations
    rw [mem_requiredNames_iff distinct member, isOptional_eq_accepts, Bool.not_eq_false]
  · intro fields entries name
    rw [Bool.eq_iff_iff]
    simp only [accepts_iff_conforms, conforms_object_iff_stored, stored_insert_undefined]

private def profileDeclarations : List (String × Schema) :=
  [("nickname", .string []), ("name", .string []), ("nickname", .optional (.string []))]

theorem redeclared_nickname_may_be_absent :
    ("nickname", Schema.optional (.string [])) ∈ Entries.ofList profileDeclarations ∧
      "nickname" ∉ requiredNames (Entries.ofList profileDeclarations) := by
  have member : ("nickname", Schema.optional (.string [])) ∈
      Entries.ofList profileDeclarations := List.mem_cons_self
  exact ⟨member, (tags_agree_with_acceptance.2.2.1 profileDeclarations _ member).mp rfl⟩

end ValueSchema.Schema
