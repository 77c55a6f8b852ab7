import ValueSchema.Constraint

/-!
The declared shape of a value: a kind with constraints, a choice of literals, or a schema
built from others.
-/

namespace ValueSchema

/-- The fields of an object have distinct names, in the order of their declaration. -/
inductive Schema where
  | string (constraints : List (Constraint String))
  | number (constraints : List (Constraint Binary64))
  | boolean
  | date
  | file (constraints : List (Constraint File))
  | literal (literals : List String)
  | optional (inner : Schema)
  | nullable (inner : Schema)
  | array (item : Schema) (constraints : List (Constraint (List Value)))
  | object (fields : List (String × Schema))

namespace Schema

def name : Schema → String
  | .string _ => "string"
  | .number _ => "number"
  | .boolean => "boolean"
  | .date => "date"
  | .file _ => "file"
  | .literal _ => "literal"
  | .optional _ => "optional"
  | .nullable _ => "nullable"
  | .array _ _ => "array"
  | .object _ => "object"

/-- Whether a field may be absent: the schema is optional, below any nullable layers. -/
def isOptional : Schema → Bool
  | .optional _ => true
  | .nullable inner => inner.isOptional
  | _ => false

/-- Whether null passes: the schema is nullable, below any optional layers. -/
def isNullable : Schema → Bool
  | .nullable _ => true
  | .optional inner => inner.isNullable
  | _ => false

/-- The names that must be present: those of the fields that are not optional. -/
def requiredNames (fields : List (String × Schema)) : List String :=
  Entries.names (fields.filter fun field => !field.2.isOptional)

end Schema

/-! ## Fields -/

/-- The fields of an object and, kept beside them, the names of those that must be present. -/
structure FieldTable where
  fields : List (String × Schema)
  required : List String

namespace FieldTable

/-- The table of the fields. All tables are made here, so the required names are gathered anew
with every change of the fields. -/
def ofFields (fields : List (String × Schema)) : FieldTable :=
  ⟨fields, Schema.requiredNames fields⟩

def empty : FieldTable := ofFields []

/-- The table of the fields left after all declarations have arrived in order. -/
def ofDeclarations (declarations : List (String × Schema)) : FieldTable :=
  ofFields (Entries.ofList declarations)

/-- A table with one more declaration. A name declared again keeps its place. -/
def declare (table : FieldTable) (name : String) (schema : Schema) : FieldTable :=
  ofFields (Entries.insert table.fields name schema)

def get? (table : FieldTable) (name : String) : Option Schema :=
  Entries.find? table.fields name

def isRequired (table : FieldTable) (name : String) : Bool := table.required.any (· == name)

def size (table : FieldTable) : Nat := table.fields.length

def isEmpty (table : FieldTable) : Bool := table.fields.isEmpty

def schema (table : FieldTable) : Schema := .object table.fields

@[simp] theorem required_ofFields (fields : List (String × Schema)) :
    (ofFields fields).required = Schema.requiredNames fields := rfl

@[simp] theorem isRequired_iff_mem (table : FieldTable) (name : String) :
    table.isRequired name = true ↔ name ∈ table.required := by
  simp [isRequired]

end FieldTable

namespace Schema

/-- The fields of an object as a table. -/
def table? : Schema → Option FieldTable
  | .object fields => some (.ofFields fields)
  | _ => none

/-- The object with the fields left after all declarations have arrived in order. -/
def ofDeclarations (declarations : List (String × Schema)) : Schema :=
  (FieldTable.ofDeclarations declarations).schema

/-- An object with one more declaration. -/
def declare? (schema : Schema) (name : String) (field : Schema) : Option Schema :=
  schema.table?.map fun table => (table.declare name field).schema

/-! ## Layers and refinements -/

/-- The schema inside an optional or nullable layer, or of the items of an array. -/
def inner? : Schema → Option Schema
  | .optional inner | .nullable inner | .array inner _ => some inner
  | _ => none

/-- A schema with one more refinement, when it is one for its kind. The constraints go
behind those that are there. -/
def refine? : Schema → Refinement → Option Schema
  | .string constraints, .string step => some (.string (constraints ++ step.constraints))
  | .number constraints, .number step => some (.number (constraints ++ step.constraints))
  | .file constraints, .file step => some (.file (constraints ++ step.constraints))
  | .array item constraints, .array step =>
      some (.array item (constraints ++ step.constraints))
  | _, _ => none

end Schema

end ValueSchema
