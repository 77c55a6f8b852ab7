import ValueSchema.Proofs.Tags

/-! # Schemas inside schemas

A schema with one place left open. Whatever is put there, what the whole accepts grows with
what the part accepts, and the whole does not tell apart parts that give the same results.
-/

namespace ValueSchema

/-! ## Results of runs -/

namespace Run

@[simp] theorem result_under (run : Run) (key : PathKey) :
    (run.under key).result = run.result.mapError (Error.under · key) := rfl

@[simp] theorem result_andThen (first : Run) (second : Unit → Run) :
    (first.andThen second).result = first.result.bind fun _ => (second ()).result := by
  rw [andThen]
  cases ended : first.result with
  | ok => rfl
  | error error => exact ended

theorem result_items_congr {check other : Value → Run}
    (same : ∀ value, (check value).result = (other value).result) (start : Nat)
    (items : List Value) :
    (Run.items check start items).result = (Run.items other start items).result := by
  induction items generalizing start with
  | nil => rfl
  | cons item rest induction =>
      simp [Run.items, same, induction]

end Run

namespace Schema

/-! ## Comparing schemas -/

/-- Every value that passes the one passes the other. -/
def Narrower (schema other : Schema) : Prop :=
  ∀ value, schema.accepts value = true → other.accepts value = true

/-- Both give the same result on every value. -/
def Agrees (schema other : Schema) : Prop :=
  ∀ value, schema.validate value = other.validate value

theorem narrower_iff_conforms {schema other : Schema} :
    schema.Narrower other ↔ ∀ value, schema.Conforms value → other.Conforms value := by
  simp only [Narrower, accepts_iff_conforms]

theorem validate_eq_iff_result_eq (schema other : Schema) (value : Value) :
    schema.validate value = other.validate value ↔
      (schema.check value).result = (other.check value).result := by
  rw [validate, validate]
  cases (schema.check value).result <;> cases (other.check value).result <;> simp [Except.map]

theorem agrees_iff_result_eq {schema other : Schema} :
    schema.Agrees other ↔ ∀ value, (schema.check value).result = (other.check value).result :=
  forall_congr' (validate_eq_iff_result_eq schema other)

theorem Agrees.accepts_eq {schema other : Schema} (agrees : schema.Agrees other)
    (value : Value) : schema.accepts value = other.accepts value := by
  rw [accepts, accepts, agrees value]

/-- Which fields are required is read off their tags, and those follow from the results. -/
theorem Agrees.isOptional_eq {schema other : Schema} (agrees : schema.Agrees other) :
    schema.isOptional = other.isOptional := by
  rw [isOptional_eq_accepts, isOptional_eq_accepts, agrees.accepts_eq]

/-! ## One layer -/

namespace Narrower

variable {schema other : Schema}

theorem optional (narrower : schema.Narrower other) :
    (Schema.optional schema).Narrower (.optional other) := by
  rw [narrower_iff_conforms] at narrower ⊢
  intro value conforms
  cases conforms with
  | absent => exact .absent
  | optional within => exact .optional (narrower value within)

theorem nullable (narrower : schema.Narrower other) :
    (Schema.nullable schema).Narrower (.nullable other) := by
  rw [narrower_iff_conforms] at narrower ⊢
  intro value conforms
  cases conforms with
  | null => exact .null
  | nullable within => exact .nullable (narrower value within)

theorem array (narrower : schema.Narrower other)
    (constraints : List (Constraint (List Value))) :
    (Schema.array schema constraints).Narrower (.array other constraints) := by
  rw [narrower_iff_conforms] at narrower ⊢
  intro value conforms
  cases conforms with
  | array elements holds =>
      exact .array (fun element member => narrower element (elements element member)) holds

theorem object (narrower : schema.Narrower other) (before after : List (String × Schema))
    (name : String) :
    (Schema.object (before ++ (name, schema) :: after)).Narrower
      (.object (before ++ (name, other) :: after)) := by
  rw [narrower_iff_conforms] at narrower ⊢
  intro value conforms
  cases conforms with
  | @object _ entries present stored =>
      -- That the other schema may be required where the first is not is no obstacle: an
      -- absent entry reads as undefined, which passes both.
      have each := (conforms_object_iff_stored _ entries).mp (.object present stored)
      refine (conforms_object_iff_stored _ entries).mpr ?_
      rw [List.forall_mem_append, List.forall_mem_cons] at each ⊢
      exact ⟨each.1, narrower _ each.2.1, each.2.2⟩

end Narrower

namespace Agrees

variable {schema other : Schema}

theorem optional (agrees : schema.Agrees other) :
    (Schema.optional schema).Agrees (.optional other) := by
  intro value
  by_cases undefined : value = .undefined
  · subst undefined
    rfl
  · rw [validate_optional schema undefined, validate_optional other undefined, agrees value]

theorem nullable (agrees : schema.Agrees other) :
    (Schema.nullable schema).Agrees (.nullable other) := by
  intro value
  by_cases null : value = .null
  · subst null
    rfl
  · rw [validate_nullable schema null, validate_nullable other null, agrees value]

theorem array (agrees : schema.Agrees other)
    (constraints : List (Constraint (List Value))) :
    (Schema.array schema constraints).Agrees (.array other constraints) := by
  rw [agrees_iff_result_eq] at agrees ⊢
  intro value
  cases value with
  | array items =>
      simp [check, Value.items?, Run.result_items_congr agrees]
  | _ => rfl

theorem missingNames_eq (agrees : schema.Agrees other) (before after : List (String × Schema))
    (name : String) (entries : List (String × Value)) :
    missingNames (before ++ (name, schema) :: after) entries =
      missingNames (before ++ (name, other) :: after) entries := by
  simp only [missingNames, FieldTable.required_ofFields, requiredNames, List.filter_append,
    List.filter_cons, agrees.isOptional_eq]
  cases other.isOptional <;> simp [Entries.names]

theorem result_checkFields_eq (agrees : schema.Agrees other)
    (before after : List (String × Schema)) (name : String)
    (entries : List (String × Value)) :
    (checkFields (before ++ (name, schema) :: after) entries).result =
      (checkFields (before ++ (name, other) :: after) entries).result := by
  rw [agrees_iff_result_eq] at agrees
  induction before with
  | nil =>
      simp [checkFields, agrees]
  | cons field rest induction =>
      simp [checkFields, induction]

theorem object (agrees : schema.Agrees other) (before after : List (String × Schema))
    (name : String) :
    (Schema.object (before ++ (name, schema) :: after)).Agrees
      (.object (before ++ (name, other) :: after)) := by
  rw [agrees_iff_result_eq]
  intro value
  cases value with
  | object entries =>
      simp only [check, Value.entries?, agrees.missingNames_eq]
      cases missingNames (before ++ (name, other) :: after) entries with
      | nil => exact agrees.result_checkFields_eq before after name entries
      | cons first rest => rfl
  | _ => rfl

end Agrees

/-! ## Contexts -/

/-- A schema with one place left open, under any number of layers. -/
inductive Context where
  | hole
  | optional (inner : Context)
  | nullable (inner : Context)
  | array (item : Context) (constraints : List (Constraint (List Value)))
  | object (before : List (String × Schema)) (name : String) (field : Context)
      (after : List (String × Schema))

def Context.fill : Context → Schema → Schema
  | .hole, schema => schema
  | .optional inner, schema => .optional (inner.fill schema)
  | .nullable inner, schema => .nullable (inner.fill schema)
  | .array item constraints, schema => .array (item.fill schema) constraints
  | .object before name field after, schema =>
      .object (before ++ (name, field.fill schema) :: after)

theorem Narrower.fill {schema other : Schema} (narrower : schema.Narrower other)
    (context : Context) : (context.fill schema).Narrower (context.fill other) := by
  induction context with
  | hole => exact narrower
  | optional inner induction => exact induction.optional
  | nullable inner induction => exact induction.nullable
  | array item constraints induction => exact induction.array constraints
  | object before name field after induction => exact induction.object before after name

theorem Agrees.fill {schema other : Schema} (agrees : schema.Agrees other)
    (context : Context) : (context.fill schema).Agrees (context.fill other) := by
  induction context with
  | hole => exact agrees
  | optional inner induction => exact induction.optional
  | nullable inner induction => exact induction.nullable
  | array item constraints induction => exact induction.array constraints
  | object before name field after induction => exact induction.object before after name

/-- In every context validation is monotone in the part, and congruent in its results. -/
theorem fill_monotone_and_congruent (context : Context) (schema other : Schema) :
    ((∀ value, schema.accepts value = true → other.accepts value = true) →
      ∀ value, (context.fill schema).accepts value = true →
        (context.fill other).accepts value = true) ∧
    ((∀ value, schema.validate value = other.validate value) →
      ∀ value, (context.fill schema).validate value = (context.fill other).validate value) :=
  ⟨fun narrower => Narrower.fill narrower context, fun agrees => Agrees.fill agrees context⟩

private def rosterContext : Context :=
  .object [("id", .number [])] "grades"
    (.optional (.array .hole ((Length.atMost 2).constraints "array length" List.length)))
    [("note", .nullable (.string []))]

private def roster (grade : Value) : Value :=
  .object [("note", .null), ("grades", .array [.string "a", grade]), ("id", .number .zero)]

private theorem literal_narrower : (Schema.literal ["a"]).Narrower (.literal ["b", "a"]) := by
  rw [narrower_iff_conforms]
  intro value conforms
  cases conforms with
  | literal member => exact .literal (List.mem_cons_of_mem _ member)

private theorem layers_agree :
    (Schema.optional (.nullable (.literal ["a"]))).Agrees
      (.nullable (.optional (.literal ["a"]))) := by
  intro value
  cases value <;> rfl

theorem roster_passes_and_fails_alike :
    (Schema.literal ["a"]).Narrower (.literal ["b", "a"]) ∧
    (rosterContext.fill (.literal ["b", "a"])).accepts (roster (.string "a")) = true ∧
    (Schema.optional (.nullable (.literal ["a"]))).Agrees
      (.nullable (.optional (.literal ["a"]))) ∧
    (rosterContext.fill (.optional (.nullable (.literal ["a"])))).validate
        (roster (.string "c")) =
      (rosterContext.fill (.nullable (.optional (.literal ["a"])))).validate
        (roster (.string "c")) := by
  refine ⟨literal_narrower, ?_, layers_agree, ?_⟩
  · have accepted :
        (rosterContext.fill (.literal ["a"])).accepts (roster (.string "a")) = true := by rfl
    exact (fill_monotone_and_congruent rosterContext _ _).1 literal_narrower _ accepted
  · exact (fill_monotone_and_congruent rosterContext _ _).2 layers_agree _

end Schema

end ValueSchema
