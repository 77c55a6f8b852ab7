import ValueSchema.Proofs.Contexts
import ValueSchema.Proofs.RecordedEvents

/-! # Refinements

Steps that refine a schema put constraints behind those that are there, and change nothing else.
What has been refused before is refused in the same way, and the constraints of the steps are
asked in order of whatever passed.
-/

namespace ValueSchema

/-- The constraint as one on all values, of which it lets pass those that it does not select. -/
def Constraint.onValues {α : Type} (select : Value → Option α) (constraint : Constraint α) :
    Constraint Value where
  name := constraint.name
  check value :=
    match select value with
    | some subject => constraint.check subject
    | none => .ok ()

theorem Constraint.map_name_onValues {α : Type} (select : Value → Option α)
    (constraints : List (Constraint α)) :
    (constraints.map (·.onValues select)).map (·.name) = constraints.map (·.name) := by
  rw [List.map_map]
  rfl

theorem violations_onValues {α : Type} (select : Value → Option α)
    (constraints : List (Constraint α)) (value : Value) :
    violations (constraints.map (·.onValues select)) value =
      match select value with
      | some subject => violations constraints subject
      | none => [] := by
  rw [violations, List.filterMap_map]
  cases selected : select value with
  | some subject => simp only [violations, Function.comp_def, Constraint.onValues, selected]
  | none => simp [Function.comp_def, Constraint.onValues, selected]

/-! ## What a step contributes -/

namespace Length

/-- The names of the bounds that are set, the least first and the exact one last. -/
def names (length : Length) : List String :=
  (length.min.map fun _ => "min_length").toList ++
  (length.max.map fun _ => "max_length").toList ++
  (length.fix.map fun _ => "fix_length").toList

/-- The bounds that are set, each as a length of its own, in the same order. -/
def singles (length : Length) : List Length :=
  (length.min.map atLeast).toList ++ (length.max.map atMost).toList ++
    (length.fix.map exactly).toList

theorem map_name_constraints {α : Type} (length : Length) (subject : String)
    (measure : α → Nat) :
    (length.constraints subject measure).map (·.name) = length.names := by
  cases length with
  | mk min max fix => cases min <;> cases max <;> cases fix <;> rfl

/-- Several bounds contribute what they contribute one by one. -/
theorem flatMap_singles {α : Type} (length : Length) (subject : String) (measure : α → Nat) :
    (length.singles.flatMap fun single => single.constraints subject measure) =
      length.constraints subject measure := by
  cases length with
  | mk min max fix => cases min <;> cases max <;> cases fix <;> rfl

end Length

namespace Refinement

/-- The kind of the values that the step is about. -/
def kind : Refinement → Kind
  | .string _ => .string
  | .number _ => .number
  | .file _ => .file
  | .array _ => .array

/-- The step is for schemas of this kind. -/
def Fits (step : Refinement) (schema : Schema) : Prop :=
  schema.expected? = some (.ofKind step.kind)

/-- The names of the constraints that the step contributes, in order. -/
def names : Refinement → List String
  | .string .email => ["email"]
  | .string .password => ["password"]
  | .string .username => ["username"]
  | .string (.length bounds) => bounds.names
  | .string (.equals _) => ["equals"]
  | .string (.custom constraint) => [constraint.name]
  | .number (.minimum _) => ["min"]
  | .number (.maximum _) => ["max"]
  | .number (.custom constraint) => [constraint.name]
  | .file (.image _) => ["image"]
  | .file (.greatestSize _) => ["size_max"]
  | .file (.custom constraint) => [constraint.name]
  | .array (.length bounds) => bounds.names
  | .array (.custom constraint) => [constraint.name]

/-- The constraints that the step contributes, in order. -/
def contributed : Refinement → List (Constraint Value)
  | .string step => step.constraints.map (·.onValues Value.string?)
  | .number step => step.constraints.map (·.onValues Value.number?)
  | .file step => step.constraints.map (·.onValues Value.file?)
  | .array step => step.constraints.map (·.onValues Value.items?)

/-- The chain of steps with single bounds that a step with several bounds stands for. -/
def spelled : Refinement → List Refinement
  | .string (.length bounds) => bounds.singles.map fun single => .string (.length single)
  | .array (.length bounds) => bounds.singles.map fun single => .array (.length single)
  | step => [step]

theorem map_name_contributed (step : Refinement) :
    step.contributed.map (·.name) = step.names := by
  cases step with
  | string step =>
      rw [contributed, Constraint.map_name_onValues]
      cases step with
      | length bounds => exact bounds.map_name_constraints _ _
      | _ => rfl
  | number step =>
      rw [contributed, Constraint.map_name_onValues]
      cases step <;> rfl
  | file step =>
      rw [contributed, Constraint.map_name_onValues]
      cases step <;> rfl
  | array step =>
      rw [contributed, Constraint.map_name_onValues]
      cases step with
      | length bounds => exact bounds.map_name_constraints _ _
      | _ => rfl

end Refinement

namespace Schema

/-- The names of the constraints of a schema, in order. -/
def constraintNames : Schema → List String
  | .string constraints => constraints.map (·.name)
  | .number constraints => constraints.map (·.name)
  | .file constraints => constraints.map (·.name)
  | .array _ constraints => constraints.map (·.name)
  | _ => []

/-- Takes the steps one after the other. -/
def refineAll? (schema : Schema) (steps : List Refinement) : Option Schema :=
  steps.foldlM refine? schema

/-! ## Schemas with further constraints -/

/-- A schema that asks for the same kind of values, with further constraints behind those of the
first. -/
structure Extends (refined schema : Schema) (further : List (Constraint Value)) : Prop where
  expected : refined.expected? = schema.expected?
  names : refined.constraintNames = schema.constraintNames ++ further.map (·.name)
  failures : ∀ value,
    refined.failures value = schema.failures value ++ violations further value

namespace Extends

variable {schema refined last : Schema} {further later : List (Constraint Value)}

theorem refl (schema : Schema) : schema.Extends schema [] where
  expected := rfl
  names := (List.append_nil _).symm
  failures _ := (List.append_nil _).symm

theorem trans (second : last.Extends refined later) (first : refined.Extends schema further) :
    last.Extends schema (further ++ later) where
  expected := second.expected.trans first.expected
  names := by
    rw [second.names, first.names, List.map_append, List.append_assoc]
  failures value := by
    rw [second.failures, first.failures, violations, violations, violations,
      List.filterMap_append, List.append_assoc]

/-- Constraints that are attached to one kind of values have a say in those alone. -/
theorem of_select {α : Type} {select : Value → Option α} {constraints more : List (Constraint α)}
    (expected : refined.expected? = schema.expected?)
    (names : schema.constraintNames = constraints.map (·.name))
    (refinedNames : refined.constraintNames = (constraints ++ more).map (·.name))
    (failures : ∀ value, refined.failures value = schema.failures value ++
      match select value with
      | some subject => violations more subject
      | none => []) :
    refined.Extends schema (more.map (·.onValues select)) where
  expected := expected
  names := by
    rw [Constraint.map_name_onValues, refinedNames, names, List.map_append]
  failures value := by
    rw [violations_onValues, failures]

theorem fits (extended : refined.Extends schema further) {step : Refinement}
    (fitting : step.Fits schema) : step.Fits refined :=
  extended.expected.trans fitting

/-- What has been refused before is refused with the same error. -/
theorem validate_eq_error (extended : refined.Extends schema further) {value : Value}
    {error : Error} (refused : schema.validate value = .error error) :
    refined.validate value = .error error := by
  rw [validate_eq_error_iff] at refused ⊢
  rcases refused with ⟨first, found, sameError⟩
  refine ⟨first, ?_, sameError⟩
  rw [extended.failures, List.head?_append, found, Option.some_or]

theorem accepts_iff (extended : refined.Extends schema further) (value : Value) :
    refined.accepts value = true ↔
      schema.accepts value = true ∧ ∀ constraint ∈ further, constraint.Holds value := by
  rw [accepts_iff_failures_eq_nil, accepts_iff_failures_eq_nil, extended.failures,
    List.append_eq_nil_iff, violations_eq_nil_iff]

/-- What has passed before is refused by the first of the further constraints that fails. -/
theorem validate_eq_error_iff_refusedFirst (extended : refined.Extends schema further)
    {value : Value} (accepted : schema.accepts value = true) (error : Error) :
    refined.validate value = .error error ↔ ∃ name, RefusedFirst value further name error := by
  -- The schema has no failure of its own, so the first failure is that of a further constraint.
  rw [accepts_iff_failures_eq_nil] at accepted
  rw [validate_eq_error_iff, extended.failures, accepted, List.nil_append]
  constructor
  · rintro ⟨first, found, rfl⟩
    have refused : ¬∀ constraint ∈ further, constraint.Holds value := by
      intro holds
      rw [(violations_eq_nil_iff further value).mpr holds] at found
      cases found
    rcases exists_refusedFirst refused with ⟨name, error, refusedFirst⟩
    rcases refusedFirst.violations_eq with ⟨rest, violated⟩
    rw [violated] at found
    cases found
    exact ⟨name, refusedFirst⟩
  · rintro ⟨name, refusedFirst⟩
    rcases refusedFirst.violations_eq with ⟨rest, violated⟩
    rw [violated]
    exact ⟨_, rfl, rfl⟩

end Extends

/-! ## One step -/

/-- The failures of the items of an array stay before those of all constraints. -/
theorem failures_array_append (item : Schema) (constraints further : List (Constraint (List Value)))
    (items : List Value) :
    (Schema.array item (constraints ++ further)).failures (.array items) =
      (Schema.array item constraints).failures (.array items) ++ violations further items := by
  simp only [failures, violations, List.filterMap_append, List.append_assoc]

theorem exists_refine? {schema : Schema} {step : Refinement} (fitting : step.Fits schema) :
    ∃ refined, schema.refine? step = some refined ∧
      refined.Extends schema step.contributed := by
  cases step with
  | string step =>
      cases schema with
      | string constraints =>
          refine ⟨_, rfl, .of_select rfl rfl rfl fun value => ?_⟩
          cases value with
          | string text => exact List.filterMap_append
          | _ => rfl
      | _ => cases fitting
  | number step =>
      cases schema with
      | number constraints =>
          refine ⟨_, rfl, .of_select rfl rfl rfl fun value => ?_⟩
          cases value with
          | number n => exact List.filterMap_append
          | _ => rfl
      | _ => cases fitting
  | file step =>
      cases schema with
      | file constraints =>
          refine ⟨_, rfl, .of_select rfl rfl rfl fun value => ?_⟩
          cases value with
          | file upload => exact List.filterMap_append
          | _ => rfl
      | _ => cases fitting
  | array step =>
      cases schema with
      | array item constraints =>
          refine ⟨_, rfl, .of_select rfl rfl rfl fun value => ?_⟩
          cases value with
          | array items => exact failures_array_append item constraints step.constraints items
          | _ => rfl
      | _ => cases fitting

/-! ## Chains of steps -/

theorem refineAll?_append (schema : Schema) (before after : List Refinement) :
    schema.refineAll? (before ++ after) =
      (schema.refineAll? before).bind fun refined => refined.refineAll? after :=
  List.foldlM_append

theorem exists_refineAll? {schema : Schema} {steps : List Refinement}
    (fitting : ∀ step ∈ steps, step.Fits schema) :
    ∃ refined, schema.refineAll? steps = some refined ∧
      refined.Extends schema (steps.flatMap Refinement.contributed) := by
  induction steps generalizing schema with
  | nil => exact ⟨schema, rfl, .refl schema⟩
  | cons step rest induction =>
      rw [List.forall_mem_cons] at fitting
      rcases exists_refine? fitting.1 with ⟨next, refinedOnce, extendedOnce⟩
      have restFits : ∀ later ∈ rest, later.Fits next := fun later member =>
        extendedOnce.fits (fitting.2 later member)
      rcases induction restFits with ⟨refined, refinedAll, extended⟩
      refine ⟨refined, ?_, extended.trans extendedOnce⟩
      rw [refineAll?, List.foldlM_cons, refinedOnce]
      exact refinedAll

/-- The chain may be left at any step, and what passes at its end has passed there. -/
theorem Extends.exists_earlier {schema refined : Schema} {before after : List Refinement}
    (fitting : ∀ step ∈ before ++ after, step.Fits schema)
    (refinedAll : schema.refineAll? (before ++ after) = some refined) :
    ∃ earlier, schema.refineAll? before = some earlier ∧ refined.Narrower earlier := by
  rw [List.forall_mem_append] at fitting
  rcases exists_refineAll? fitting.1 with ⟨earlier, refinedBefore, extended⟩
  have afterFits : ∀ step ∈ after, step.Fits earlier := fun step member =>
    extended.fits (fitting.2 step member)
  rcases exists_refineAll? afterFits with ⟨last, refinedAfter, extendedFurther⟩
  rw [refineAll?_append, refinedBefore, Option.bind_some, refinedAfter,
    Option.some.injEq] at refinedAll
  subst refinedAll
  refine ⟨earlier, refinedBefore, fun value accepted => ?_⟩
  exact ((extendedFurther.accepts_iff value).mp accepted).1

/-! ## Bounds one by one -/

theorem refineAll?_singleton (schema : Schema) (step : Refinement) :
    schema.refineAll? [step] = schema.refine? step := by
  simp [refineAll?]

/-- Where every step of a sort puts its constraints behind those that are there, so does a chain
of such steps. -/
theorem refineAll?_map {σ β : Type} {holding : List β → Schema} {wrap : σ → Refinement}
    {constraintsOf : σ → List β}
    (one : ∀ present step, (holding present).refine? (wrap step) =
      some (holding (present ++ constraintsOf step)))
    (present : List β) (steps : List σ) :
    (holding present).refineAll? (steps.map wrap) =
      some (holding (present ++ steps.flatMap constraintsOf)) := by
  induction steps generalizing present with
  | nil => simp [refineAll?]
  | cons step rest induction =>
      have next := induction (present ++ constraintsOf step)
      rw [List.map_cons, refineAll?, List.foldlM_cons, one, List.flatMap_cons,
        ← List.append_assoc, ← next]
      rfl

theorem refineAll?_spelled {schema : Schema} {step : Refinement} (fitting : step.Fits schema) :
    schema.refineAll? step.spelled = schema.refine? step := by
  cases step with
  | string step =>
      cases step with
      | length bounds =>
          cases schema with
          | string constraints =>
              have one (present step) : (Schema.string present).refine? (.string step) =
                  some (.string (present ++ step.constraints)) := rfl
              have chain := refineAll?_map one constraints (bounds.singles.map .length)
              rw [List.map_map, List.flatMap_map] at chain
              refine chain.trans ?_
              simp only [StringRefinement.constraints, Length.flatMap_singles]
              rfl
          | _ => cases fitting
      | _ => exact refineAll?_singleton schema _
  | array step =>
      cases step with
      | length bounds =>
          cases schema with
          | array item constraints =>
              have one (present step) : (Schema.array item present).refine? (.array step) =
                  some (.array item (present ++ step.constraints)) := rfl
              have chain := refineAll?_map one constraints (bounds.singles.map .length)
              rw [List.map_map, List.flatMap_map] at chain
              refine chain.trans ?_
              simp only [ArrayRefinement.constraints, Length.flatMap_singles]
              rfl
          | _ => cases fitting
      | _ => exact refineAll?_singleton schema _
  | number step => exact refineAll?_singleton schema _
  | file step => exact refineAll?_singleton schema _

theorem refineAll?_flatMap_spelled {schema : Schema} {steps : List Refinement}
    (fitting : ∀ step ∈ steps, step.Fits schema) :
    schema.refineAll? (steps.flatMap Refinement.spelled) = schema.refineAll? steps := by
  induction steps generalizing schema with
  | nil => rfl
  | cons step rest induction =>
      rw [List.forall_mem_cons] at fitting
      rcases exists_refine? fitting.1 with ⟨next, refinedOnce, extendedOnce⟩
      have restFits : ∀ later ∈ rest, later.Fits next := fun later member =>
        extendedOnce.fits (fitting.2 later member)
      rw [List.flatMap_cons, refineAll?_append, refineAll?_spelled fitting.1, refinedOnce,
        Option.bind_some, induction restFits, refineAll?, refineAll?, List.foldlM_cons,
        refinedOnce]
      rfl

/-! ## What refinements do -/

/-- A chain of steps appends the constraints of its steps, in order, and does nothing else. What
was refused is refused with the same error; what had passed passes exactly when all the appended
constraints hold, and is otherwise refused by the first of them that fails. So the order of the
steps makes no difference to what passes, several bounds of a length are as good as the chain of
the single ones, and what passes in the end has passed after each step. -/
theorem refinements_only_append {schema : Schema} {steps : List Refinement}
    (fitting : ∀ step ∈ steps, step.Fits schema) :
    ∃ refined, schema.refineAll? steps = some refined ∧
      refined.constraintNames = schema.constraintNames ++ steps.flatMap Refinement.names ∧
      (∀ value error, schema.validate value = .error error →
        refined.validate value = .error error) ∧
      (∀ value, schema.accepts value = true →
        (refined.accepts value = true ↔
          ∀ step ∈ steps, ∀ constraint ∈ step.contributed, constraint.Holds value) ∧
        ∀ error, refined.validate value = .error error ↔
          ∃ name, RefusedFirst value (steps.flatMap Refinement.contributed) name error) ∧
      (∀ others, others.Perm steps → ∃ other, schema.refineAll? others = some other ∧
        ∀ value, other.accepts value = refined.accepts value) ∧
      schema.refineAll? (steps.flatMap Refinement.spelled) = some refined ∧
      ∀ count, ∃ earlier, schema.refineAll? (steps.take count) = some earlier ∧
        ∀ value, refined.accepts value = true → earlier.accepts value = true := by
  rcases exists_refineAll? fitting with ⟨refined, refinedAll, extended⟩
  refine ⟨refined, refinedAll, ?_, fun value error refused => extended.validate_eq_error refused,
    fun value accepted => ⟨?_, extended.validate_eq_error_iff_refusedFirst accepted⟩,
    fun others permuted => ?_, ?_, fun count => ?_⟩
  · rw [extended.names, List.map_flatMap]
    simp only [Refinement.map_name_contributed]
  · rw [extended.accepts_iff, and_iff_right accepted, List.forall_mem_flatMap]
  · have othersFit : ∀ step ∈ others, step.Fits schema := fun step member =>
      fitting step (permuted.mem_iff.mp member)
    rcases exists_refineAll? othersFit with ⟨other, refinedOther, extendedOther⟩
    refine ⟨other, refinedOther, fun value => ?_⟩
    rw [Bool.eq_iff_iff, extended.accepts_iff, extendedOther.accepts_iff]
    simp only [(permuted.flatMap_right Refinement.contributed).mem_iff]
  · rw [refineAll?_flatMap_spelled fitting, refinedAll]
  · rw [← List.take_append_drop count steps] at fitting refinedAll
    exact Extends.exists_earlier fitting refinedAll

private def badges : Schema := .array (.string [.username]) []

private def badgeSteps : List Refinement :=
  [.array (.length ⟨some 1, some 2, none⟩),
   .array (.custom (.ofPredicate "few" (fun items => items.length < 3) fun _ => "too many"))]

private def threeBadges : Value := .array [.string "a", .string "b", .string "c"]

private def tooManyBadges : Error :=
  .violation "max_length" "array length 3 is greater than the maximum of 2"

private def spacedBadges : Value := .array [.string "a", .string "b c", .string "d"]

private theorem badgeSteps_fit : ∀ step ∈ badgeSteps, step.Fits badges :=
  List.forall_mem_cons.mpr ⟨rfl, List.forall_mem_singleton.mpr rfl⟩

/-- Three badges fail two of the appended constraints, of which the first is reported. The failure
of a badge itself comes before both. -/
theorem badges_refused_by_first_bound :
    (∀ step ∈ badgeSteps, step.Fits badges) ∧ badges.accepts threeBadges = true ∧
    ∃ refined, badges.refineAll? badgeSteps = some refined ∧
      refined.constraintNames = ["min_length", "max_length", "few"] ∧
      refined.validate threeBadges = .error tooManyBadges ∧
      ∃ error, badges.validate spacedBadges = .error error ∧
        refined.validate spacedBadges = .error error := by
  have accepted : badges.accepts threeBadges = true := by rfl
  have leastHolds : ∀ earlier ∈ (Refinement.array (.length (.atLeast 1))).contributed,
      earlier.Holds threeBadges := by
    intro earlier member
    cases List.mem_singleton.mp member
    rfl
  have first : RefusedFirst threeBadges (badgeSteps.flatMap Refinement.contributed) "max_length"
      tooManyBadges :=
    .intro leastHolds rfl
  rcases refinements_only_append badgeSteps_fit with
    ⟨refined, refinedAll, names, before, after, _⟩
  exact ⟨badgeSteps_fit, accepted, refined, refinedAll, names,
    ((after threeBadges accepted).2 tooManyBadges).mpr ⟨_, first⟩,
    _, rfl, before spacedBadges _ rfl⟩

end Schema

end ValueSchema
