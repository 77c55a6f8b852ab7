import ValueSchema.Schema

/-! # Schemas as trees

Induction over the nesting of schemas, and demands that every constraint inside a
schema has to meet; one is that constraints on arrays do no more than count.
-/

namespace ValueSchema

/-- Induction over a schema, in which the hypothesis about an object speaks of the schema
of each of its fields. -/
@[induction_eliminator]
theorem Schema.nested {motive : Schema → Prop}
    (string : ∀ constraints, motive (.string constraints))
    (number : ∀ constraints, motive (.number constraints))
    (boolean : motive .boolean)
    (date : motive .date)
    (file : ∀ constraints, motive (.file constraints))
    (literal : ∀ literals, motive (.literal literals))
    (optional : ∀ inner, motive inner → motive (.optional inner))
    (nullable : ∀ inner, motive inner → motive (.nullable inner))
    (array : ∀ item constraints, motive item → motive (.array item constraints))
    (object : ∀ fields, (∀ field ∈ fields, motive field.2) → motive (.object fields))
    (schema : Schema) : motive schema := by
  refine @Schema.rec motive (fun fields => ∀ field ∈ fields, motive field.2)
    (fun field => motive field.2) string number boolean date file literal optional nullable
    array object ?_ ?_ ?_ schema
  · intro field member
    cases member
  · intro first rest firstHolds restHolds field member
    rcases List.mem_cons.mp member with equal | member
    · exact equal ▸ firstHolds
    · exact restHolds field member
  · intro _ _ holds
    exact holds

/-! ## Demands on constraints -/

/-- A demand on constraints, one for each sort of value that they are attached to. -/
structure ConstraintDemand where
  string : Constraint String → Prop
  number : Constraint Binary64 → Prop
  file : Constraint File → Prop
  array : Constraint (List Value) → Prop

/-- Every constraint of a schema, at any depth, meets its demand. -/
inductive Schema.Meets (demand : ConstraintDemand) : Schema → Prop
  | string {constraints} (each : ∀ constraint ∈ constraints, demand.string constraint) :
      Meets demand (.string constraints)
  | number {constraints} (each : ∀ constraint ∈ constraints, demand.number constraint) :
      Meets demand (.number constraints)
  | boolean : Meets demand .boolean
  | date : Meets demand .date
  | file {constraints} (each : ∀ constraint ∈ constraints, demand.file constraint) :
      Meets demand (.file constraints)
  | literal {literals} : Meets demand (.literal literals)
  | optional {inner} (within : Meets demand inner) : Meets demand (.optional inner)
  | nullable {inner} (within : Meets demand inner) : Meets demand (.nullable inner)
  | array {item constraints} (within : Meets demand item)
      (each : ∀ constraint ∈ constraints, demand.array constraint) :
      Meets demand (.array item constraints)
  | object {fields : List (String × Schema)}
      (within : ∀ field ∈ fields, Meets demand field.2) : Meets demand (.object fields)

/-- What meets a demand meets every weaker one. -/
theorem Schema.Meets.imp {demand weaker : ConstraintDemand}
    (string : ∀ constraint, demand.string constraint → weaker.string constraint)
    (number : ∀ constraint, demand.number constraint → weaker.number constraint)
    (file : ∀ constraint, demand.file constraint → weaker.file constraint)
    (array : ∀ constraint, demand.array constraint → weaker.array constraint)
    {schema : Schema} (meets : schema.Meets demand) : schema.Meets weaker := by
  induction meets with
  | string each => exact .string fun constraint member => string _ (each constraint member)
  | number each => exact .number fun constraint member => number _ (each constraint member)
  | boolean => exact .boolean
  | date => exact .date
  | file each => exact .file fun constraint member => file _ (each constraint member)
  | literal => exact .literal
  | optional _ induction => exact .optional induction
  | nullable _ induction => exact .nullable induction
  | array _ each induction =>
      exact .array induction fun constraint member => array _ (each constraint member)
  | object _ induction => exact .object induction

/-! ## Constraints that count -/

/-- Of an array the constraint sees no more than the number of items. -/
def Constraint.DependsOnCount (constraint : Constraint (List Value)) : Prop :=
  ∀ items others : List Value, items.length = others.length →
    constraint.check items = constraint.check others

/-- The constraints on arrays depend on the number of items, and those on anything else
are free. -/
def ConstraintDemand.counting : ConstraintDemand where
  string _ := True
  number _ := True
  file _ := True
  array := Constraint.DependsOnCount

/-- What a bound says about a value depends on nothing but its length. -/
theorem Length.check_eq_of_measure_eq {α : Type} {measure : α → Nat} {value other : α}
    (same : measure value = measure other) (length : Length) (subject : String) :
    ∀ constraint ∈ length.constraints subject measure,
      constraint.check value = constraint.check other := by
  intro constraint member
  simp only [Length.constraints, List.mem_append, Option.mem_toList,
    Option.map_eq_some_iff] at member
  rcases member with (⟨bound, _, rfl⟩ | ⟨bound, _, rfl⟩) | ⟨bound, _, rfl⟩ <;>
    simp only [Constraint.ofPredicate, same]

theorem Length.constraints_dependOnCount (length : Length) (subject : String) :
    ∀ constraint ∈ length.constraints subject List.length, constraint.DependsOnCount :=
  fun constraint member _ _ sameLength =>
    check_eq_of_measure_eq sameLength length subject constraint member

end ValueSchema
