import ValueSchema.Schema

/-!
Running a schema on a value: the value passes unchanged or the first failure is returned,
and the events on the way are recorded.
-/

namespace ValueSchema

/-! ## Runs -/

/-- What is recorded while a value is validated. -/
inductive Event where
  | constraintRejected (constraint : String)
  | fieldsMissing (names : List String)
  | validationFailed (kind : String) (path : String)
  deriving DecidableEq

/-- How much attention an event asks for. -/
inductive Level where
  | trace
  | debug
  deriving DecidableEq

def Level.name : Level → String
  | .trace => "TRACE"
  | .debug => "DEBUG"

namespace Event

def level : Event → Level
  | .constraintRejected _ => .trace
  | .fieldsMissing _ | .validationFailed _ _ => .debug

def message : Event → String
  | .constraintRejected _ => "constraint rejected value"
  | .fieldsMissing _ => "required fields are missing"
  | .validationFailed _ _ => "validation failed"

/-- What is recorded beside the message. -/
def details : Event → List (String × String)
  | .constraintRejected constraint => [("constraint", constraint)]
  | .fieldsMissing names => [("fields", bracketed (names.map quoted))]
  | .validationFailed kind path => [("kind", kind), ("path", path)]

end Event

/-- The events of a run, oldest first, and how it ended. -/
structure Run where
  events : List Event
  result : Except Error Unit

namespace Run

def accept : Run := ⟨[], .ok ()⟩

def mismatch (value : Value) (expected : Expected) : Run :=
  ⟨[], .error (.typeMismatch value expected)⟩

/-- Goes on with the second run when the first has accepted. -/
def andThen (first : Run) (second : Unit → Run) : Run :=
  match first.result with
  | .ok () => ⟨first.events ++ (second ()).events, (second ()).result⟩
  | .error _ => first

/-- The run as part of one on the value around it. -/
def under (run : Run) (key : PathKey) : Run :=
  { run with result := run.result.mapError (Error.under · key) }

variable {α : Type}

/-- Runs constraints in order, up to the first that fails. -/
def constraints : List (Constraint α) → α → Run
  | [], _ => accept
  | constraint :: rest, value =>
      match constraint.check value with
      | .ok () => constraints rest value
      | .error error => ⟨[.constraintRejected constraint.name], .error error⟩

/-- Runs the same check on the items of an array, the first of which has the given
position. -/
def items (check : Value → Run) : Nat → List Value → Run
  | _, [] => accept
  | position, item :: rest =>
      ((check item).under (.index position)).andThen fun _ => items check (position + 1) rest

end Run

/-! ## Validation -/

namespace Schema

/-- The required names that are not among the entries. -/
def missingNames (fields : List (String × Schema)) (entries : List (String × Value)) :
    List String :=
  (FieldTable.ofFields fields).required.filter fun name => (Entries.find? entries name).isNone

mutual

/-- An array is checked item by item and then as a whole. Of an object all missing fields
are reported together; if there are none its fields are checked in order, and one that is
absent counts as undefined. Entries without a field are of no concern. -/
def check : Schema → Value → Run
  | .string constraints, value =>
      match value.string? with
      | some text => .constraints constraints text
      | none => .mismatch value (.ofKind .string)
  | .number constraints, value =>
      match value.number? with
      | some n => .constraints constraints n
      | none => .mismatch value (.ofKind .number)
  | .boolean, value =>
      if value.kind = .boolean then .accept else .mismatch value (.ofKind .boolean)
  | .date, value => if value.kind = .date then .accept else .mismatch value (.ofKind .date)
  | .file constraints, value =>
      match value.file? with
      | some upload => .constraints constraints upload
      | none => .mismatch value (.ofKind .file)
  | .literal literals, value =>
      if value.string?.any fun text => text ∈ literals then .accept
      else .mismatch value (.oneOf literals)
  | .optional inner, value => if value.isUndefined then .accept else inner.check value
  | .nullable inner, value => if value.isNull then .accept else inner.check value
  | .array item constraints, value =>
      match value.items? with
      | some items =>
          (Run.items (fun value => item.check value) 0 items).andThen fun _ =>
            .constraints constraints items
      | none => .mismatch value (.ofKind .array)
  | .object fields, value =>
      match value.entries? with
      | some entries =>
          match missingNames fields entries with
          | [] => checkFields fields entries
          | names => ⟨[.fieldsMissing names], .error (.missingFields names)⟩
      | none => .mismatch value (.ofKind .object)

def checkFields : List (String × Schema) → List (String × Value) → Run
  | [], _ => .accept
  | (name, schema) :: rest, entries =>
      ((schema.check ((Entries.find? entries name).getD .undefined)).under (.field name)).andThen
        fun _ => checkFields rest entries

end

/-- Strict validation: the value itself, or the first failure. -/
def validate (schema : Schema) (value : Value) : Except Error Value :=
  (schema.check value).result.map fun _ => value

end Schema

/-! ## Outcomes -/

/-- The result of safe validation, in which a failure is a value like any other. -/
inductive Outcome where
  | valid (value : Value)
  | invalid (error : Error)

namespace Outcome

def isValid : Outcome → Bool
  | .valid _ => true
  | .invalid _ => false

def value? : Outcome → Option Value
  | .valid value => some value
  | .invalid _ => none

def error? : Outcome → Option Error
  | .valid _ => none
  | .invalid error => some error

def toExcept : Outcome → Except Error Value
  | .valid value => .ok value
  | .invalid error => .error error

end Outcome

namespace Schema

/-- Safe validation: the outcome and everything that was recorded, the failure itself
last. -/
def safeValidate (schema : Schema) (value : Value) : List Event × Outcome :=
  let run := schema.check value
  match run.result with
  | .ok () => (run.events, .valid value)
  | .error error =>
      (run.events ++
        [.validationFailed error.kindName ((error.path.map Path.dotted).getD "")],
        .invalid error)

end Schema

end ValueSchema
