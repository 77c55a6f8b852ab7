import ValueSchema.Error
import ValueSchema.Text.Quoted
import ValueSchema.Text.WhiteSpace

/-!
Named checks that refine what a schema accepts, and the refinements of strings, numbers,
files and arrays that contribute them.
-/

namespace ValueSchema

/-- A named check; it is run anew for every value. -/
structure Constraint (α : Type) where
  name : String
  check : α → Except Error Unit

namespace Constraint

variable {α : Type}

/-- A check by a predicate; the message may speak of the refused value. -/
def ofPredicate (name : String) (holds : α → Bool) (message : α → String) :
    Constraint α where
  name := name
  check value := if holds value then .ok () else .error (.violation name (message value))

/-- Names a list of constraints without its checks. -/
def listing (constraints : List (Constraint α)) : String :=
  bracketed (constraints.map fun constraint => "Constraint(" ++ quoted constraint.name ++ ")")

end Constraint

/-! ## Lengths -/

/-- Bounds of a length; each that is set is checked on its own. -/
structure Length where
  min : Option Nat
  max : Option Nat
  fix : Option Nat
  deriving DecidableEq

namespace Length

def atLeast (bound : Nat) : Length := ⟨some bound, none, none⟩

def atMost (bound : Nat) : Length := ⟨none, some bound, none⟩

def exactly (bound : Nat) : Length := ⟨none, none, some bound⟩

variable {α : Type}

/-- One constraint for each bound, the least first and the exact one last. -/
def constraints (length : Length) (subject : String) (measure : α → Nat) :
    List (Constraint α) :=
  let refusal (value : α) (relation : String) (bound : Nat) : String :=
    subject ++ " " ++ toString (measure value) ++ relation ++ toString bound
  (length.min.map fun bound => .ofPredicate "min_length" (fun value => bound ≤ measure value)
    fun value => refusal value " is less than the minimum of " bound).toList ++
  (length.max.map fun bound => .ofPredicate "max_length" (fun value => measure value ≤ bound)
    fun value => refusal value " is greater than the maximum of " bound).toList ++
  (length.fix.map fun bound => .ofPredicate "fix_length" (fun value => measure value = bound)
    fun value => refusal value " is not exactly " bound).toList

end Length

/-! ## Strings -/

/-- Whether a text is an address: a local part, the only at sign, and a domain with a dot
inside it, all without white space. -/
def isEmail (text : List Char) : Bool :=
  match text.dropWhile (· ≠ '@') with
  | [] => false
  | _ :: domain =>
      text.head? ≠ some '@' && !domain.contains '@' && (domain.drop 1).dropLast.contains '.' &&
        !text.any isWhiteSpace

def leastPasswordLength : Nat := 8

def isPassword (text : List Char) : Bool :=
  leastPasswordLength ≤ text.length && text.any Char.isLower && text.any Char.isUpper &&
    text.any Char.isDigit

/-- Letters and digits of ASCII and underscores, at least one. -/
def isUsername (text : List Char) : Bool :=
  !text.isEmpty && text.all fun c => c.isAlphanum || c = '_'

namespace Constraint

def email : Constraint String :=
  .ofPredicate "email" (fun text => isEmail text.toList) fun text =>
    "\"" ++ text ++ "\" is not a valid email"

/-- The refused text is never shown, only how many characters it has. -/
def password : Constraint String :=
  .ofPredicate "password" (fun text => isPassword text.toList) fun text =>
    "\"" ++ String.ofList (List.replicate text.length '*') ++
      "\" is not a valid password, it must be at least " ++ toString leastPasswordLength ++
      " characters long and contain a lowercase letter, an uppercase letter and a digit"

def username : Constraint String :=
  .ofPredicate "username" (fun text => isUsername text.toList) fun text =>
    "\"" ++ text ++ "\" is not a valid username, only letters, digits and underscores are allowed"

def equals (expected : String) : Constraint String :=
  .ofPredicate "equals" (· == expected) fun text =>
    "\"" ++ text ++ "\" does not match \"" ++ expected ++ "\""

/-! ## Numbers -/

def minimum (bound : Binary64) : Constraint Binary64 :=
  .ofPredicate "min" (fun number => bound.atMost number) fun number =>
    number.text ++ " is less than the minimum of " ++ bound.text

def maximum (bound : Binary64) : Constraint Binary64 :=
  .ofPredicate "max" (fun number => number.atMost bound) fun number =>
    number.text ++ " is greater than the maximum of " ++ bound.text

/-! ## Files -/

def defaultImageTypes : List String :=
  ["image/jpeg", "image/jpg", "image/png", "image/gif", "image/webp", "image/svg+xml",
   "image/bmp", "image/avif"]

/-- The types of images that are allowed, ascending and each once. -/
def imageTypes (extra : List String) : List String :=
  Entries.names (Entries.ofListAscending ((extra ++ defaultImageTypes).map (·, ())))

def image (extra : List String) : Constraint File :=
  let allowed := imageTypes extra
  .ofPredicate "image" (fun file => file.mime ∈ allowed) fun file =>
    "\"" ++ file.mime ++ "\" is not an allowed image type, expected one of \x7b" ++
      ", ".intercalate allowed ++ "\x7d"

def greatestSize (bytes : UInt64) : Constraint File :=
  .ofPredicate "size_max" (fun file => file.size ≤ bytes) fun file =>
    "file size " ++ toString file.size.toNat ++ " bytes is greater than the maximum of " ++
      toString bytes.toNat ++ " bytes"

end Constraint

/-! ## Refinements

A refinement is a step in building a schema. It contributes constraints, which go behind
those that are there. -/

inductive StringRefinement where
  | email
  | password
  | username
  | length (bounds : Length)
  | equals (expected : String)
  | custom (constraint : Constraint String)

inductive NumberRefinement where
  | minimum (bound : Binary64)
  | maximum (bound : Binary64)
  | custom (constraint : Constraint Binary64)

inductive FileRefinement where
  | image (extra : List String)
  | greatestSize (bytes : UInt64)
  | custom (constraint : Constraint File)

inductive ArrayRefinement where
  | length (bounds : Length)
  | custom (constraint : Constraint (List Value))

def StringRefinement.constraints : StringRefinement → List (Constraint String)
  | .email => [.email]
  | .password => [.password]
  | .username => [.username]
  | .length bounds => bounds.constraints "string length" String.length
  | .equals expected => [.equals expected]
  | .custom constraint => [constraint]

def NumberRefinement.constraints : NumberRefinement → List (Constraint Binary64)
  | .minimum bound => [.minimum bound]
  | .maximum bound => [.maximum bound]
  | .custom constraint => [constraint]

def FileRefinement.constraints : FileRefinement → List (Constraint File)
  | .image extra => [.image extra]
  | .greatestSize bytes => [.greatestSize bytes]
  | .custom constraint => [constraint]

def ArrayRefinement.constraints : ArrayRefinement → List (Constraint (List Value))
  | .length bounds => bounds.constraints "array length" List.length
  | .custom constraint => [constraint]

/-- A step for one of the kinds of schema that can be refined. -/
inductive Refinement where
  | string (step : StringRefinement)
  | number (step : NumberRefinement)
  | file (step : FileRefinement)
  | array (step : ArrayRefinement)

end ValueSchema
