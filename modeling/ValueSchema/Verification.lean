import ValueSchema.Data.ToValue
import ValueSchema.Validation

/-!
Validating anything that can be handed over as data.
-/

namespace ValueSchema.Schema

/-- Turns data into a value and validates that. -/
def verify (schema : Schema) (data : Data) : Except Error Unit :=
  match data.toValue with
  | .ok value => (schema.check value).result
  | .error fault => .error fault.toError

theorem verify_eq_validate (schema : Schema) {data : Data} {value : Value}
    (converted : data.toValue = .ok value) :
    schema.verify data = (schema.validate value).map fun _ => () := by
  simp only [verify, converted, validate]
  cases (schema.check value).result <;> rfl

end ValueSchema.Schema
