import ValueSchema.Proofs.SchemaInduction
import ValueSchema.Validation

/-! # Failures

All failures of a value, gathered without stopping at the first one. Each is written out with
the keys that lead to it and its cause. Validation meets them in the same order: it ends with
the first, and it passes when there is none.
-/

namespace ValueSchema

/-- The keys that lead to the refused value, outermost first. -/
def Error.keys (error : Error) : List String :=
  match error.path with
  | some path => path.keys
  | none => []

@[simp] theorem Error.keys_under (error : Error) (key : PathKey) :
    (error.under key).keys = key.text :: error.keys := by
  cases path : error.path <;>
    simp [Error.keys, Error.under, Path.prepend, Path.root, path]

/-- What met a failure: the look at the kind of a value or at its choice among literals, a
named constraint, or the search for missing fields. -/
inductive Origin where
  | kind
  | constraint (name : String)
  | presence (missing : List String)
  deriving DecidableEq

/-- What is recorded where the failure is met. -/
def Origin.events : Origin → List Event
  | .kind => []
  | .constraint name => [.constraintRejected name]
  | .presence missing => [.fieldsMissing missing]

structure Failure where
  origin : Origin
  error : Error
  deriving DecidableEq

namespace Failure

def mismatch (value : Value) (expected : Expected) : Failure :=
  ⟨.kind, ⟨none, .typeMismatch value.description expected⟩⟩

def missing (names : List String) : Failure := ⟨.presence names, ⟨none, .missingFields names⟩⟩

/-- The failure as seen from one level further out, where one more key leads to it. -/
def under (failure : Failure) (key : String) : Failure :=
  ⟨failure.origin, ⟨some ⟨key :: failure.error.keys⟩, failure.error.cause⟩⟩

theorem under_eq (failure : Failure) (key : PathKey) :
    failure.under key.text = ⟨failure.origin, failure.error.under key⟩ := by
  obtain ⟨origin, path, cause⟩ := failure
  cases path <;> rfl

end Failure

/-! ## All failures -/

/-- One failure for each constraint that refuses the subject, in the order of the
constraints. -/
def violations {α : Type} (constraints : List (Constraint α)) (subject : α) : List Failure :=
  constraints.filterMap fun constraint =>
    match constraint.check subject with
    | .ok () => none
    | .error error => some ⟨.constraint constraint.name, error⟩

/-- The value stored under a name, which is undefined when the name is absent. -/
def Value.stored (entries : List (String × Value)) (name : String) : Value :=
  (Entries.find? entries name).getD .undefined

namespace Schema

/-- The names of the fields that must be present and are not, in declaration order. -/
def absentNames (fields : List (String × Schema)) (entries : List (String × Value)) :
    List String :=
  Entries.names <| fields.filter fun field =>
    !field.2.isOptional && decide (field.1 ∉ Entries.names entries)

mutual

/-- A value of the wrong kind has this one failure. Otherwise the items of an array come
before its constraints, and a missing field hides the failures of all fields that are
there. -/
def failures : Schema → Value → List Failure
  | .string constraints, value =>
      match value with
      | .string text => violations constraints text
      | _ => [.mismatch value (.ofKind .string)]
  | .number constraints, value =>
      match value with
      | .number n => violations constraints n
      | _ => [.mismatch value (.ofKind .number)]
  | .boolean, value =>
      match value with
      | .boolean _ => []
      | _ => [.mismatch value (.ofKind .boolean)]
  | .date, value =>
      match value with
      | .date _ => []
      | _ => [.mismatch value (.ofKind .date)]
  | .file constraints, value =>
      match value with
      | .file upload => violations constraints upload
      | _ => [.mismatch value (.ofKind .file)]
  | .literal literals, value =>
      match value with
      | .string text => if text ∈ literals then [] else [.mismatch value (.oneOf literals)]
      | _ => [.mismatch value (.oneOf literals)]
  | .optional inner, value =>
      match value with
      | .undefined => []
      | _ => inner.failures value
  | .nullable inner, value =>
      match value with
      | .null => []
      | _ => inner.failures value
  | .array item constraints, value =>
      match value with
      | .array items =>
          (items.zipIdx.flatMap fun entry =>
            (item.failures entry.1).map (·.under (toString entry.2))) ++
          violations constraints items
      | _ => [.mismatch value (.ofKind .array)]
  | .object fields, value =>
      match value with
      | .object entries =>
          if absentNames fields entries = [] then fieldFailures fields entries
          else [.missing (absentNames fields entries)]
      | _ => [.mismatch value (.ofKind .object)]

def fieldFailures : List (String × Schema) → List (String × Value) → List Failure
  | [], _ => []
  | (name, schema) :: rest, entries =>
      (schema.failures (Value.stored entries name)).map (·.under name) ++
        fieldFailures rest entries

end

theorem failures_optional (inner : Schema) {value : Value} (defined : value ≠ .undefined) :
    (Schema.optional inner).failures value = inner.failures value := by
  cases value with
  | undefined => exact absurd rfl defined
  | _ => rfl

theorem failures_nullable (inner : Schema) {value : Value} (notNull : value ≠ .null) :
    (Schema.nullable inner).failures value = inner.failures value := by
  cases value with
  | null => exact absurd rfl notNull
  | _ => rfl

theorem fieldFailures_eq_flatMap (fields : List (String × Schema))
    (entries : List (String × Value)) :
    fieldFailures fields entries =
      fields.flatMap fun field =>
        (field.2.failures (Value.stored entries field.1)).map (·.under field.1) := by
  induction fields with
  | nil => rfl
  | cons field rest induction => rw [fieldFailures, induction, List.flatMap_cons]

end Schema

/-! ## Runs that end with the first failure -/

namespace Run

/-- Records what belongs to the first failure and ends with it. -/
def ofFailures : List Failure → Run
  | [] => accept
  | first :: _ => ⟨first.origin.events, .error first.error⟩

theorem mismatch_eq (value : Value) (expected : Expected) :
    mismatch value expected = ofFailures [.mismatch value expected] := rfl

theorem ofFailures_append (before after : List Failure) :
    ofFailures (before ++ after) = (ofFailures before).andThen fun _ => ofFailures after := by
  cases before with
  | nil => simp [ofFailures, andThen, accept]
  | cons first rest => rfl

theorem ofFailures_under (failures : List Failure) (key : PathKey) :
    ofFailures (failures.map (·.under key.text)) = (ofFailures failures).under key := by
  cases failures with
  | nil => rfl
  | cons first rest =>
      rw [List.map_cons, first.under_eq]
      rfl

theorem constraints_eq {α : Type} (list : List (Constraint α)) (subject : α) :
    constraints list subject = ofFailures (violations list subject) := by
  induction list with
  | nil => rfl
  | cons constraint rest induction =>
      rw [constraints, violations, List.filterMap_cons]
      cases constraint.check subject with
      | ok => exact induction
      | error error => rfl

/-- Items are met in order, each at its own position. -/
theorem items_eq {check : Value → Run} {failures : Value → List Failure}
    (agrees : ∀ value, check value = ofFailures (failures value)) (items : List Value)
    (start : Nat) :
    Run.items check start items =
      ofFailures ((items.zipIdx start).flatMap fun entry =>
        (failures entry.1).map (·.under (toString entry.2))) := by
  induction items generalizing start with
  | nil => rfl
  | cons element rest induction =>
      have first : ofFailures ((failures element).map (·.under (toString start))) =
          (ofFailures (failures element)).under (.index start) := ofFailures_under _ (.index start)
      rw [Run.items, List.zipIdx_cons, List.flatMap_cons, ofFailures_append, first, agrees,
        induction]

end Run

namespace Schema

theorem missingNames_eq_absentNames (fields : List (String × Schema))
    (entries : List (String × Value)) :
    missingNames fields entries = absentNames fields entries := by
  have absent (name : String) :
      (Entries.find? entries name).isNone = decide (name ∉ Entries.names entries) := by
    rw [Bool.eq_iff_iff, Option.isNone_iff_eq_none, Entries.find?_eq_none_iff,
      decide_eq_true_iff]
  rw [missingNames, FieldTable.required_ofFields, requiredNames, absentNames, Entries.names,
    List.filter_map, List.filter_filter]
  congr 2
  funext field
  rw [Function.comp_apply, absent, Bool.and_comm]

theorem checkFields_eq {fields : List (String × Schema)} (entries : List (String × Value))
    (agrees : ∀ field ∈ fields, ∀ value,
      field.2.check value = .ofFailures (field.2.failures value)) :
    checkFields fields entries = .ofFailures (fieldFailures fields entries) := by
  induction fields with
  | nil => rfl
  | cons field rest induction =>
      obtain ⟨name, schema⟩ := field
      have headAgrees := agrees (name, schema) List.mem_cons_self
      have restAgrees := induction fun field member =>
        agrees field (List.mem_cons_of_mem _ member)
      have first : Run.ofFailures
            ((schema.failures (Value.stored entries name)).map (·.under name)) =
          (Run.ofFailures (schema.failures (Value.stored entries name))).under (.field name) :=
        Run.ofFailures_under _ (.field name)
      rw [checkFields, fieldFailures, Run.ofFailures_append, first, ← headAgrees, restAgrees,
        Value.stored]

/-- Validation is a run through the failures that stops at the first, with everything that
is recorded on the way. -/
theorem check_eq_ofFailures (schema : Schema) (value : Value) :
    schema.check value = .ofFailures (schema.failures value) := by
  induction schema generalizing value with
  | string constraints =>
      cases value with
      | string text => exact Run.constraints_eq constraints text
      | _ => rfl
  | number constraints =>
      cases value with
      | number n => exact Run.constraints_eq constraints n
      | _ => rfl
  | boolean => cases value <;> rfl
  | date => cases value <;> rfl
  | file constraints =>
      cases value with
      | file upload => exact Run.constraints_eq constraints upload
      | _ => rfl
  | literal literals =>
      cases value with
      | string text =>
          by_cases member : text ∈ literals
          · simp [check, failures, Value.string?, member, Run.ofFailures]
          · simp [check, failures, Value.string?, member, Run.mismatch_eq]
      | _ => rfl
  | optional inner induction =>
      cases value with
      | undefined => rfl
      | _ => exact induction _
  | nullable inner induction =>
      cases value with
      | null => rfl
      | _ => exact induction _
  | array item constraints induction =>
      cases value with
      | array items =>
          simp only [check, Value.items?, failures]
          rw [Run.items_eq induction, Run.constraints_eq, Run.ofFailures_append]
      | _ => rfl
  | object fields induction =>
      cases value with
      | object entries =>
          simp only [check, Value.entries?, failures, missingNames_eq_absentNames]
          cases absent : absentNames fields entries with
          | nil => exact checkFields_eq entries induction
          | cons name names => rfl
      | _ => rfl

/-! ## Validation and its failures -/

/-- Whether a value passes validation. -/
def accepts (schema : Schema) (value : Value) : Bool := (schema.validate value).isOk

theorem validate_eq_ok_iff (schema : Schema) (value result : Value) :
    schema.validate value = .ok result ↔ result = value ∧ schema.failures value = [] := by
  rw [validate, check_eq_ofFailures]
  cases schema.failures value with
  | nil => simp [Run.ofFailures, Run.accept, Except.map, eq_comm]
  | cons first rest => simp [Run.ofFailures, Except.map]

theorem validate_eq_error_iff (schema : Schema) (value : Value) (error : Error) :
    schema.validate value = .error error ↔
      ∃ first, (schema.failures value).head? = some first ∧ first.error = error := by
  rw [validate, check_eq_ofFailures]
  cases schema.failures value with
  | nil => simp [Run.ofFailures, Run.accept, Except.map]
  | cons first rest => simp [Run.ofFailures, Except.map]

theorem accepts_iff_failures_eq_nil (schema : Schema) (value : Value) :
    schema.accepts value = true ↔ schema.failures value = [] := by
  rw [accepts, validate, check_eq_ofFailures]
  cases schema.failures value with
  | nil => exact ⟨fun _ => rfl, fun _ => rfl⟩
  | cons first rest => exact ⟨nofun, nofun⟩

theorem validate_optional (inner : Schema) {value : Value} (defined : value ≠ .undefined) :
    (Schema.optional inner).validate value = inner.validate value := by
  cases value with
  | undefined => exact absurd rfl defined
  | _ => rfl

theorem validate_nullable (inner : Schema) {value : Value} (notNull : value ≠ .null) :
    (Schema.nullable inner).validate value = inner.validate value := by
  cases value with
  | null => exact absurd rfl notNull
  | _ => rfl

/-- A value passes unchanged when it has no failures; otherwise the first of them is
returned, with its path. -/
theorem validate_eq_first_failure (schema : Schema) (value : Value) :
    schema.validate value =
      match schema.failures value with
      | [] => .ok value
      | first :: _ => .error first.error := by
  rw [validate, check_eq_ofFailures]
  cases schema.failures value <;> rfl

example :
    ((Schema.array (.string [.username])
        ((Length.atMost 1).constraints "array length" List.length)).failures
      (.array [.null, .string "no one"])).map
        (fun failure => (failure.error.path, failure.error.kindName)) =
      [(some ⟨["0"]⟩, "type_mismatch"), (some ⟨["1"]⟩, "constraint_violation"),
        (none, "constraint_violation")] := by rfl

end Schema

end ValueSchema
