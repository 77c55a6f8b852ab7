import ValueSchema.Proofs.DeclaredNames

/-! # Hidden passwords

Of a text in the place of a password, validation shows how long it is and whether it is a
password, and nothing else. So two values that differ only in such texts fare alike, in what
is returned as in what is recorded.
-/

namespace ValueSchema

/-! ## Constraints on passwords -/

/-- The constraint is the one that asks for a password, or it bounds the length of a text. -/
inductive Constraint.GuardsPassword : Constraint String → Prop
  | password : GuardsPassword .password
  | length {constraint} (bounds : Length)
      (member : constraint ∈ bounds.constraints "string length" String.length) :
      GuardsPassword constraint

/-- The texts have equally many characters, and both are passwords or neither is. -/
structure LookAlike (text other : String) : Prop where
  sameLength : text.length = other.length
  sameVerdict : isPassword text.toList = isPassword other.toList

variable {text other : String}

/-- The message about a refused password shows one star for each character. -/
theorem Constraint.check_password_eq (alike : LookAlike text other) :
    Constraint.password.check text = Constraint.password.check other := by
  simp only [Constraint.password, Constraint.ofPredicate, alike.sameLength, alike.sameVerdict]

theorem Constraint.GuardsPassword.check_eq {constraint : Constraint String}
    (guards : constraint.GuardsPassword) (alike : LookAlike text other) :
    constraint.check text = constraint.check other := by
  cases guards with
  | password => exact check_password_eq alike
  | length bounds member =>
      exact bounds.check_eq_of_measure_eq alike.sameLength _ _ member

theorem Run.constraints_eq_of_lookAlike {constraints : List (Constraint String)}
    (guards : ∀ constraint ∈ constraints, constraint.GuardsPassword)
    (alike : LookAlike text other) :
    Run.constraints constraints text = Run.constraints constraints other := by
  induction constraints with
  | nil => rfl
  | cons constraint rest induction =>
      rw [List.forall_mem_cons] at guards
      rw [Run.constraints, Run.constraints, guards.1.check_eq alike, induction guards.2]

namespace Schema

/-! ## Values with hidden parts -/

/-- The values are the same, or they are texts that look alike, in the place of a password. -/
inductive Hides : Schema → Value → Value → Prop
  | same {schema value} : Hides schema value value
  | password {constraints text other}
      (guards : ∀ constraint ∈ constraints, constraint.GuardsPassword)
      (alike : LookAlike text other) :
      Hides (.string constraints) (.string text) (.string other)

namespace Hides

theorem kind_eq {schema : Schema} {value other : Value} (hides : Hides schema value other) :
    value.kind = other.kind := by
  cases hides <;> rfl

theorem check_eq {schema : Schema} {value other : Value} (hides : Hides schema value other) :
    schema.check value = schema.check other := by
  cases hides with
  | same => rfl
  | password guards alike => exact Run.constraints_eq_of_lookAlike guards alike

end Hides

/-- Where constraints on arrays do no more than count, two values that differ only in
texts that look alike, each in a place that the schema reaches with nothing but constraints on
passwords, both pass or are both refused with one error, and the same is recorded. -/
theorem passwords_stay_hidden {schema : Schema} (counting : schema.Meets .counting)
    {value other : Value} (related : Related Hides schema value other) :
    ((schema.validate value).map fun _ => ()) = ((schema.validate other).map fun _ => ()) ∧
    (schema.safeValidate value).1 = (schema.safeValidate other).1 := by
  have sameRun : schema.check value = schema.check other :=
    related.check_eq (fun _ _ _ => Hides.kind_eq) (fun _ _ _ => Hides.check_eq) counting
  simp only [validate, safeValidate, sameRun]
  cases (schema.check other).result with
  | ok => exact ⟨rfl, rfl⟩
  | error error => exact ⟨rfl, rfl⟩

private def passwordSchema : Schema :=
  .string (.password :: (Length.atMost 12).constraints "string length" String.length)

private def signUpSchema : Schema :=
  .object
    [("accounts", .array (.object [("password", .nullable passwordSchema)])
      ((Length.atLeast 1).constraints "array length" List.length))]

private def signUp (password : String) : Value :=
  .object [("accounts", .array [.object [("password", .string password)]])]

private theorem signUpSchema_counting : signUpSchema.Meets .counting := by
  have account : (Schema.object [("password", .nullable passwordSchema)]).Meets .counting :=
    .object (List.forall_mem_singleton.mpr (.nullable (.string fun _ _ => trivial)))
  refine .object (List.forall_mem_singleton.mpr ?_)
  exact .array account (Length.constraints_dependOnCount _ _)

private theorem signUps_related (alike : LookAlike text other) :
    Related Hides signUpSchema (signUp text) (signUp other) := by
  have hidden : Hides passwordSchema (.string text) (.string other) :=
    .password (List.forall_mem_cons.mpr ⟨.password, fun _ => .length _⟩) alike
  refine .object (List.forall_mem_singleton.mpr Iff.rfl) ?_
  rw [List.forall_mem_singleton]
  rintro _ _ ⟨⟩ ⟨⟩
  refine .array rfl ?_
  rintro (_ | position) _ _ ⟨⟩ ⟨⟩
  refine .object (List.forall_mem_singleton.mpr Iff.rfl) ?_
  rw [List.forall_mem_singleton]
  rintro _ _ ⟨⟩ ⟨⟩
  exact .nullable (.whole hidden)

theorem sign_ups_refused_alike :
    signUpSchema.Meets .counting ∧
    Related Hides signUpSchema (signUp "hunter22") (signUp "pa55word") ∧
    signUpSchema.accepts (signUp "hunter22") = false ∧
    ((signUpSchema.validate (signUp "hunter22")).map fun _ => ()) =
      ((signUpSchema.validate (signUp "pa55word")).map fun _ => ()) ∧
    (signUpSchema.safeValidate (signUp "hunter22")).1 =
      (signUpSchema.safeValidate (signUp "pa55word")).1 := by
  have alike : LookAlike "hunter22" "pa55word" := ⟨by decide +kernel, by decide +kernel⟩
  have related := signUps_related alike
  exact ⟨signUpSchema_counting, related, by decide +kernel,
    passwords_stay_hidden signUpSchema_counting related⟩

end Schema

end ValueSchema
