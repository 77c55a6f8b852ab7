import ValueSchema.Path
import ValueSchema.Value

/-!
Why a value is refused, and where.
-/

namespace ValueSchema

/-- What a schema asked for when the kind of a value was wrong. -/
inductive Expected where
  | ofKind (kind : Kind)
  | oneOf (literals : List String)
  deriving DecidableEq

/-- What went wrong. A type mismatch holds the description of the value, not the value. -/
inductive Cause where
  | typeMismatch (value : String) (expected : Expected)
  | violation (constraint message : String)
  | missingFields (names : List String)
  | custom (text : String)
  deriving DecidableEq

/-- A cause, and the path to the refused value unless it is the root. -/
structure Error where
  path : Option Path
  cause : Cause
  deriving DecidableEq

def Expected.description : Expected → String
  | .ofKind kind => kind.name
  | .oneOf literals =>
      "literal, expected one of \x7b" ++
        ", ".intercalate (literals.map fun literal => "\"" ++ literal ++ "\"") ++ "\x7d"

namespace Cause

/-- The name of the sort of failure. -/
def kindName : Cause → String
  | .typeMismatch _ _ => "type_mismatch"
  | .violation _ _ => "constraint_violation"
  | .missingFields _ => "missing_fields"
  | .custom _ => "custom"

def message : Cause → String
  | .typeMismatch value expected => value ++ " is not a valid " ++ expected.description
  | .violation _ message => message
  | .missingFields names => "missing required fields: " ++ ", ".intercalate names
  | .custom text => text

end Cause

namespace Error

def ofCause (cause : Cause) : Error := ⟨none, cause⟩

def typeMismatch (value : Value) (expected : Expected) : Error :=
  ofCause (.typeMismatch value.description expected)

def violation (constraint message : String) : Error := ofCause (.violation constraint message)

def missingFields (names : List String) : Error := ofCause (.missingFields names)

def custom (text : String) : Error := ofCause (.custom text)

def kindName (error : Error) : String := error.cause.kindName

def message (error : Error) : String := error.cause.message

/-- The message, after the path in parentheses if there is one. -/
def description (error : Error) : String :=
  match error.path with
  | some path => "(" ++ path.dotted ++ ") " ++ error.message
  | none => error.message

/-- The error as seen from one level further out. -/
def under (error : Error) (key : PathKey) : Error :=
  { error with path := some ((error.path.getD .root).prepend key) }

end Error

end ValueSchema
