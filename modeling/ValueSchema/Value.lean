import ValueSchema.Entries
import ValueSchema.Number.Decimal
import ValueSchema.Time.Rfc3339

/-!
Untyped values, as they arrive in a payload, a form or an upload.
-/

namespace ValueSchema

/-! ## Kinds -/

inductive Kind where
  | undefined
  | null
  | boolean
  | number
  | string
  | date
  | file
  | array
  | object
  deriving DecidableEq

def Kind.name : Kind → String
  | .undefined => "undefined"
  | .null => "null"
  | .boolean => "boolean"
  | .number => "number"
  | .string => "string"
  | .date => "date"
  | .file => "file"
  | .array => "array"
  | .object => "object"

/-! ## Files -/

/-- An uploaded file: what was declared about it, without its contents. -/
structure File where
  name : Option String
  mime : String
  size : UInt64
  deriving DecidableEq

def File.description (file : File) : String :=
  let declared := "(" ++ file.mime ++ ", " ++ toString file.size.toNat ++ " bytes)"
  match file.name with
  | some name => "file \"" ++ name ++ "\" " ++ declared
  | none => "file " ++ declared

/-! ## Values -/

/-- An absent entry reads as `undefined`, which is not the same as an explicit `null`. The
entries of an object keep the order of their arrival and have distinct names. -/
inductive Value where
  | undefined
  | null
  | boolean (truth : Bool)
  | number (number : Binary64)
  | string (text : String)
  | date (instant : Instant)
  | file (file : File)
  | array (items : List Value)
  | object (entries : List (String × Value))

namespace Value

def kind : Value → Kind
  | .undefined => .undefined
  | .null => .null
  | .boolean _ => .boolean
  | .number _ => .number
  | .string _ => .string
  | .date _ => .date
  | .file _ => .file
  | .array _ => .array
  | .object _ => .object

def isUndefined : Value → Bool
  | .undefined => true
  | _ => false

def isNull : Value → Bool
  | .null => true
  | _ => false

theorem isUndefined_eq_kind (value : Value) :
    value.isUndefined = decide (value.kind = .undefined) := by
  cases value <;> rfl

theorem isNull_eq_kind (value : Value) : value.isNull = decide (value.kind = .null) := by
  cases value <;> rfl

theorem eq_undefined_iff_kind (value : Value) :
    value = .undefined ↔ value.kind = .undefined := by
  cases value <;> simp [kind]

theorem eq_null_iff_kind (value : Value) : value = .null ↔ value.kind = .null := by
  cases value <;> simp [kind]

def string? : Value → Option String
  | .string text => some text
  | _ => none

def number? : Value → Option Binary64
  | .number n => some n
  | _ => none

def file? : Value → Option File
  | .file upload => some upload
  | _ => none

def items? : Value → Option (List Value)
  | .array items => some items
  | _ => none

def entries? : Value → Option (List (String × Value))
  | .object entries => some entries
  | _ => none

@[simp] theorem string?_eq_some_iff {value : Value} {text : String} :
    value.string? = some text ↔ value = .string text := by
  cases value <;> simp [string?]

@[simp] theorem number?_eq_some_iff {value : Value} {n : Binary64} :
    value.number? = some n ↔ value = .number n := by
  cases value <;> simp [number?]

/-- The object left after all pairs have arrived in order. -/
def ofPairs (pairs : List (String × Value)) : Value := .object (Entries.ofList pairs)

/-- A short description for messages: strings are quoted as they are, arrays, objects and
files are summed up. -/
def description : Value → String
  | .undefined => "undefined"
  | .null => "null"
  | .boolean truth => if truth then "true" else "false"
  | .number n => n.text
  | .string text => "\"" ++ text ++ "\""
  | .date instant => Rfc3339.write instant
  | .file upload => upload.description
  | .array items => "array of " ++ toString items.length ++ " items"
  | .object entries => "object with " ++ toString entries.length ++ " keys"

/-! ## Equality

Numbers are compared as numbers, so a value that holds a NaN differs from itself. Objects
are compared without regard to the order of their entries: they hold equally many, and every
entry of the one is found in the other. -/

mutual

def equal : Value → Value → Bool
  | .undefined, .undefined => true
  | .null, .null => true
  | .boolean left, .boolean right => left == right
  | .number left, .number right => left.equal right
  | .string left, .string right => left == right
  | .date left, .date right => left == right
  | .file left, .file right => left == right
  | .array left, .array right => equalItems left right
  | .object left, .object right => left.length == right.length && entriesWithin left right
  | _, _ => false

def equalItems : List Value → List Value → Bool
  | [], [] => true
  | left :: lefts, right :: rights => left.equal right && equalItems lefts rights
  | _, _ => false

def entriesWithin : List (String × Value) → List (String × Value) → Bool
  | [], _ => true
  | (name, value) :: rest, entries =>
      (match Entries.find? entries name with
        | some found => value.equal found
        | none => false) && entriesWithin rest entries

end

end Value

end ValueSchema
