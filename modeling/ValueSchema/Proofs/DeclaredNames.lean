import ValueSchema.Proofs.Failures

/-! # Declared names

Of an object a schema sees the entries under the names that it declares, and neither their
order nor what stands beside them. Two values that differ in nothing else have the same run.
-/

namespace ValueSchema

/-! ## Runs that see the same -/

theorem Run.constraints_eq_of_length_eq {list : List (Constraint (List Value))}
    (counting : ∀ constraint ∈ list, constraint.DependsOnCount) {items others : List Value}
    (sameLength : items.length = others.length) :
    Run.constraints list items = Run.constraints list others := by
  induction list with
  | nil => rfl
  | cons constraint rest induction =>
      rw [List.forall_mem_cons] at counting
      rw [Run.constraints, Run.constraints, counting.1 items others sameLength,
        induction counting.2]

theorem Run.items_eq_of_each_eq {check : Value → Run} {items others : List Value}
    (sameLength : items.length = others.length)
    (each : ∀ (position : Nat) (value other : Value), items[position]? = some value →
      others[position]? = some other → check value = check other) (start : Nat) :
    Run.items check start items = Run.items check start others := by
  induction items generalizing others start with
  | nil =>
      cases others with
      | nil => rfl
      | cons other rest => cases sameLength
  | cons value rest induction =>
      cases others with
      | nil => cases sameLength
      | cons other otherRest =>
          have first := each 0 value other rfl rfl
          have later := induction (Nat.succ.inj sameLength)
            (fun position => each (position + 1)) (start + 1)
          rw [Run.items, Run.items, first, later]

namespace Schema

theorem missingNames_eq_of_present_iff {fields : List (String × Schema)}
    {entries others : List (String × Value)}
    (present : ∀ field ∈ fields,
      field.1 ∈ Entries.names entries ↔ field.1 ∈ Entries.names others) :
    missingNames fields entries = missingNames fields others := by
  refine List.filter_congr fun name member => ?_
  rcases List.mem_map.mp member with ⟨field, fieldMember, rfl⟩
  rw [Bool.eq_iff_iff, Option.isNone_iff_eq_none, Option.isNone_iff_eq_none,
    Entries.find?_eq_none_iff, Entries.find?_eq_none_iff]
  exact not_congr (present field (List.mem_filter.mp fieldMember).1)

theorem checkFields_eq_of_each_eq {fields : List (String × Schema)}
    {entries others : List (String × Value)}
    (each : ∀ field ∈ fields,
      field.2.check ((Entries.find? entries field.1).getD .undefined) =
        field.2.check ((Entries.find? others field.1).getD .undefined)) :
    checkFields fields entries = checkFields fields others := by
  induction fields with
  | nil => rfl
  | cons field rest induction =>
      obtain ⟨name, schema⟩ := field
      rw [List.forall_mem_cons] at each
      rw [checkFields, checkFields, each.1, induction each.2]

/-! ## Related values -/

/-- Two values that a schema sees as alike, or that it takes apart in the same way into
parts that are related: arrays item by item, and objects by the names of their fields, each
of which is absent from both or stored in both. -/
inductive Related (alike : Schema → Value → Value → Prop) : Schema → Value → Value → Prop
  | whole {schema value other} (same : alike schema value other) :
      Related alike schema value other
  | optional {inner value other} (within : Related alike inner value other) :
      Related alike (.optional inner) value other
  | nullable {inner value other} (within : Related alike inner value other) :
      Related alike (.nullable inner) value other
  | array {item constraints items others} (sameLength : items.length = others.length)
      (each : ∀ (position : Nat) (value other : Value), items[position]? = some value →
        others[position]? = some other → Related alike item value other) :
      Related alike (.array item constraints) (.array items) (.array others)
  | object {fields : List (String × Schema)} {entries others}
      (present : ∀ field ∈ fields,
        field.1 ∈ Entries.names entries ↔ field.1 ∈ Entries.names others)
      (stored : ∀ field ∈ fields, ∀ value other, Entries.find? entries field.1 = some value →
        Entries.find? others field.1 = some other → Related alike field.2 value other) :
      Related alike (.object fields) (.object entries) (.object others)

namespace Related

variable {alike : Schema → Value → Value → Prop} {schema : Schema} {value other : Value}

theorem kind_eq (sameKind : ∀ schema value other, alike schema value other →
    value.kind = other.kind) (related : Related alike schema value other) :
    value.kind = other.kind := by
  induction related with
  | whole same => exact sameKind _ _ _ same
  | optional _ induction => exact induction
  | nullable _ induction => exact induction
  | array _ _ _ => rfl
  | object _ _ _ => rfl

/-- If values that are alike have the same kind and the same run, so have related ones. -/
theorem check_eq (sameKind : ∀ schema value other, alike schema value other →
      value.kind = other.kind)
    (sameRun : ∀ schema value other, alike schema value other →
      schema.check value = schema.check other)
    (counting : schema.Meets .counting) (related : Related alike schema value other) :
    schema.check value = schema.check other := by
  induction related with
  | whole same => exact sameRun _ _ _ same
  | optional within induction =>
      cases counting with
      | optional counting =>
          rw [check, check, Value.isUndefined_eq_kind, Value.isUndefined_eq_kind,
            within.kind_eq sameKind, induction counting]
  | nullable within induction =>
      cases counting with
      | nullable counting =>
          rw [check, check, Value.isNull_eq_kind, Value.isNull_eq_kind,
            within.kind_eq sameKind, induction counting]
  | array sameLength _ induction =>
      cases counting with
      | array counting each =>
          have sameItems := Run.items_eq_of_each_eq sameLength
            (fun position value other found otherFound =>
              induction position value other found otherFound counting) 0
          simp only [check, Value.items?]
          rw [sameItems, Run.constraints_eq_of_length_eq each sameLength]
  | @object fields entries others present _ induction =>
      cases counting with
      | object counting =>
          have sameFields : checkFields fields entries = checkFields fields others := by
            refine checkFields_eq_of_each_eq fun field member => ?_
            have samePresence := present field member
            cases found : Entries.find? entries field.1 with
            | none =>
                have absent := (Entries.find?_eq_none_iff entries field.1).mp found
                rw [samePresence, ← Entries.find?_eq_none_iff] at absent
                rw [absent]
            | some value =>
                cases otherFound : Entries.find? others field.1 with
                | none =>
                    have absent := (Entries.find?_eq_none_iff others field.1).mp otherFound
                    rw [← samePresence, ← Entries.find?_eq_none_iff, found] at absent
                    cases absent
                | some other =>
                    exact induction field member value other found otherFound
                      (counting field member)
          simp only [check, Value.entries?]
          rw [missingNames_eq_of_present_iff present, sameFields]

end Related

/-- Where constraints on arrays do no more than count, values that are the same as far as the
schema looks both pass or are both refused with one error, and the same is recorded. Numbers
that compare as equal would not be enough: the texts of zero and negative zero differ. -/
theorem related_values_fare_alike {schema : Schema} (counting : schema.Meets .counting)
    {value other : Value} (related : Related (fun _ => Eq) schema value other) :
    ((schema.validate value = .ok value ∧ schema.validate other = .ok other) ∨
      ∃ error, schema.validate value = .error error ∧ schema.validate other = .error error) ∧
    (schema.safeValidate value).1 = (schema.safeValidate other).1 := by
  have sameRun : schema.check value = schema.check other :=
    related.check_eq (fun _ _ _ equal => congrArg Value.kind equal)
      (fun schema _ _ equal => congrArg schema.check equal) counting
  constructor
  · rw [validate, validate, sameRun]
    cases (schema.check other).result with
    | ok => exact .inl ⟨rfl, rfl⟩
    | error error => exact .inr ⟨error, rfl, rfl⟩
  · simp only [safeValidate, sameRun]
    cases (schema.check other).result <;> rfl

private def lineSchema : Schema := .object [("code", .string [.username])]

private def orderSchema : Schema :=
  .object
    [("buyer", .optional (.string [.username])),
     ("lines", .array lineSchema ((Length.atMost 2).constraints "array length" List.length))]

private def line : Value := .object [("code", .string "a 1")]

private def pricedLine : Value := .object [("price", .null), ("code", .string "a 1")]

private def order : Value := .object [("lines", .array [pricedLine]), ("buyer", .string "ada")]

private def annotatedOrder : Value :=
  .object [("note", .boolean true), ("buyer", .string "ada"), ("lines", .array [line])]

private theorem orderSchema_counting : orderSchema.Meets .counting := by
  have username : (Schema.string [.username]).Meets .counting :=
    .string fun _ _ => trivial
  have lines : lineSchema.Meets .counting :=
    .object (List.forall_mem_singleton.mpr username)
  refine .object (List.forall_mem_cons.mpr ⟨.optional username, ?_⟩)
  exact List.forall_mem_singleton.mpr (.array lines (Length.constraints_dependOnCount _ _))

private theorem lines_related : Related (fun _ => Eq) lineSchema pricedLine line := by
  refine .object (List.forall_mem_singleton.mpr (by decide)) ?_
  rw [List.forall_mem_singleton]
  rintro _ _ ⟨⟩ ⟨⟩
  exact .whole rfl

private theorem orders_related : Related (fun _ => Eq) orderSchema order annotatedOrder := by
  refine .object (List.forall_mem_cons.mpr ⟨by decide, List.forall_mem_singleton.mpr (by decide)⟩)
    ?_
  rw [List.forall_mem_cons, List.forall_mem_singleton]
  constructor
  · rintro _ _ ⟨⟩ ⟨⟩
    exact .whole rfl
  · rintro _ _ ⟨⟩ ⟨⟩
    refine .array rfl ?_
    rintro (_ | position) _ _ ⟨⟩ ⟨⟩
    exact lines_related

theorem annotated_order_refused_alike :
    orderSchema.Meets .counting ∧ Related (fun _ => Eq) orderSchema order annotatedOrder ∧
    orderSchema.accepts order = false ∧
    ((orderSchema.validate order = .ok order ∧
        orderSchema.validate annotatedOrder = .ok annotatedOrder) ∨
      ∃ error, orderSchema.validate order = .error error ∧
        orderSchema.validate annotatedOrder = .error error) ∧
    (orderSchema.safeValidate order).1 = (orderSchema.safeValidate annotatedOrder).1 :=
  ⟨orderSchema_counting, orders_related, by rfl,
    related_values_fare_alike orderSchema_counting orders_related⟩

end Schema

end ValueSchema
