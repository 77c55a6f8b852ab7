import ValueSchema.Proofs.Failures

/-! # Locations

The path of an error is put together from the inside out. Followed from the outside in, it
leads through the schema and the value together to the part that failed, and to the
schema that refused it.
-/

namespace ValueSchema

theorem Error.path_under_ne_root (error : Error) (key : PathKey) :
    (error.under key).path ≠ some .root := by
  simp [Error.under, Path.prepend, Path.root]

theorem Error.keys_eq_nil_iff {error : Error} (notRoot : error.path ≠ some .root) :
    error.keys = [] ↔ error.path = none := by
  obtain ⟨path, cause⟩ := error
  cases path with
  | none => exact ⟨fun _ => rfl, fun _ => rfl⟩
  | some path =>
      refine ⟨fun empty => ?_, nofun⟩
      obtain ⟨keys⟩ := path
      change keys = [] at empty
      exact absurd (congrArg (fun keys => some (Path.mk keys)) empty) notRoot

/-! ## Constraints that name no place

A constraint sees only its own subject. Where that lies is for the schemas around it to say. -/

def Constraint.Pathless {α : Type} (constraint : Constraint α) : Prop :=
  ∀ subject error, constraint.check subject = .error error → error.path = none

def ConstraintDemand.pathless : ConstraintDemand where
  string := Constraint.Pathless
  number := Constraint.Pathless
  file := Constraint.Pathless
  array := Constraint.Pathless

theorem Constraint.ofPredicate_pathless {α : Type} (name : String) (holds : α → Bool)
    (message : α → String) : (Constraint.ofPredicate name holds message).Pathless := by
  intro subject error failed
  change (if holds subject then .ok () else .error (.violation name (message subject)) :
    Except Error Unit) = .error error at failed
  by_cases passed : holds subject = true
  · rw [if_pos passed] at failed
    cases failed
  · rw [if_neg passed] at failed
    cases failed
    rfl

theorem violations_pathless {α : Type} {constraints : List (Constraint α)}
    (pathless : ∀ constraint ∈ constraints, constraint.Pathless) (subject : α) :
    ∀ failure ∈ violations constraints subject, failure.error.path = none := by
  intro failure member
  rcases List.mem_filterMap.mp member with ⟨constraint, constraintMember, failed⟩
  cases result : constraint.check subject with
  | ok => simp [result] at failed
  | error error =>
      rw [result] at failed
      cases failed
      exact pathless constraint constraintMember subject error result

namespace Schema

/-! ## Following a path -/

/-- The keys lead from a schema and a value to a part of each. An array is entered with the
text of a position and an object with the name of a field; the layers of optional and
nullable schemas take no key. The number counts the arrays and objects that were entered. -/
inductive Leads : Schema → Value → List String → Nat → Schema → Value → Prop
  | here {schema value} : Leads schema value [] 0 schema value
  | optional {inner value keys entered target part}
      (rest : Leads inner value keys entered target part) :
      Leads (.optional inner) value keys entered target part
  | nullable {inner value keys entered target part}
      (rest : Leads inner value keys entered target part) :
      Leads (.nullable inner) value keys entered target part
  | array {item constraints items element keys entered target part} {position : Nat}
      (found : items[position]? = some element)
      (rest : Leads item element keys entered target part) :
      Leads (.array item constraints) (.array items) (toString position :: keys) (entered + 1)
        target part
  | object {name schema entries keys entered target part} {fields : List (String × Schema)}
      (member : (name, schema) ∈ fields)
      (rest : Leads schema (Value.stored entries name) keys entered target part) :
      Leads (.object fields) (.object entries) (name :: keys) (entered + 1) target part

theorem Leads.entered_eq_length {schema target : Schema} {value part : Value}
    {keys : List String} {entered : Nat}
    (leads : Leads schema value keys entered target part) : entered = keys.length := by
  induction leads with
  | here => rfl
  | optional _ induction => exact induction
  | nullable _ induction => exact induction
  | array _ _ induction => rw [induction, List.length_cons]
  | object _ _ induction => rw [induction, List.length_cons]

/-- The failures that are not those of a part: a wrong kind, a constraint attached to this
very schema, or missing fields. Optional and nullable layers have none. -/
def ownFailures : Schema → Value → List Failure
  | .optional _, _ => []
  | .nullable _, _ => []
  | .array _ constraints, .array items => violations constraints items
  | .object fields, .object entries =>
      if absentNames fields entries = [] then [] else [.missing (absentNames fields entries)]
  | schema, value => schema.failures value

/-- The keys of an error lead to a part that is refused for the same cause, and not for the
sake of a part of its own. -/
def Located (schema : Schema) (value : Value) (error : Error) : Prop :=
  error.path ≠ some .root ∧
    ∃ entered target part, Leads schema value error.keys entered target part ∧
      target.validate part = .error (.ofCause error.cause) ∧
      ∃ failure ∈ target.ownFailures part, failure.error = .ofCause error.cause

namespace Located

theorem here {schema : Schema} {value : Value} {failure : Failure}
    (own : failure ∈ schema.ownFailures value) (pathless : failure.error.path = none)
    (failed : schema.validate value = .error failure.error) :
    Located schema value failure.error := by
  obtain ⟨origin, path, cause⟩ := failure
  cases pathless
  refine ⟨?_, 0, schema, value, .here, failed, _, own, rfl⟩
  intro isRoot
  cases isRoot

theorem ofOwnFailures {schema : Schema} {value : Value} {error : Error}
    (own : schema.ownFailures value = schema.failures value)
    (pathless : ∀ failure ∈ schema.failures value, failure.error.path = none)
    (failed : schema.validate value = .error error) : Located schema value error := by
  rcases (validate_eq_error_iff schema value error).mp failed with ⟨first, isFirst, rfl⟩
  have member := List.mem_of_head? isFirst
  exact here (own ▸ member) (pathless first member) failed

theorem optional {inner : Schema} {value : Value} {error : Error}
    (located : Located inner value error) : Located (.optional inner) value error := by
  rcases located with ⟨notRoot, entered, target, part, leads, refused⟩
  exact ⟨notRoot, entered, target, part, leads.optional, refused⟩

theorem nullable {inner : Schema} {value : Value} {error : Error}
    (located : Located inner value error) : Located (.nullable inner) value error := by
  rcases located with ⟨notRoot, entered, target, part, leads, refused⟩
  exact ⟨notRoot, entered, target, part, leads.nullable, refused⟩

theorem item {item : Schema} {constraints : List (Constraint (List Value))}
    {items : List Value} {element : Value} {position : Nat} {error : Error}
    (found : items[position]? = some element) (located : Located item element error) :
    Located (.array item constraints) (.array items) (error.under (.index position)) := by
  rcases located with ⟨_, entered, target, part, leads, refused⟩
  refine ⟨error.path_under_ne_root _, entered + 1, target, part, ?_, refused⟩
  rw [Error.keys_under]
  exact leads.array found

theorem field {fields : List (String × Schema)} {entries : List (String × Value)}
    {name : String} {schema : Schema} {error : Error} (member : (name, schema) ∈ fields)
    (located : Located schema (Value.stored entries name) error) :
    Located (.object fields) (.object entries) (error.under (.field name)) := by
  rcases located with ⟨_, entered, target, part, leads, refused⟩
  refine ⟨error.path_under_ne_root _, entered + 1, target, part, ?_, refused⟩
  rw [Error.keys_under]
  exact leads.object member

end Located

/-- The first of many prefixed failures is the first failure of one of the parts. -/
theorem exists_of_head?_flatMap_under {α : Type} {parts : List α}
    {failuresOf : α → List Failure} {keyOf : α → String} {first : Failure}
    (isFirst : (parts.flatMap fun part =>
      (failuresOf part).map (·.under (keyOf part))).head? = some first) :
    ∃ part ∈ parts, ∃ inner, (failuresOf part).head? = some inner ∧
      inner.under (keyOf part) = first := by
  rw [List.head?_flatMap] at isFirst
  rcases List.exists_of_findSome?_eq_some isFirst with ⟨part, member, isFirst⟩
  rw [List.head?_map, Option.map_eq_some_iff] at isFirst
  exact ⟨part, member, isFirst⟩

theorem located_of_validate_eq_error {schema : Schema} (pathless : schema.Meets .pathless)
    {value : Value} {error : Error} (failed : schema.validate value = .error error) :
    Located schema value error := by
  induction pathless generalizing value error with
  | string each =>
      refine .ofOwnFailures rfl ?_ failed
      cases value with
      | string text => exact violations_pathless each text
      | _ => exact List.forall_mem_singleton.mpr rfl
  | number each =>
      refine .ofOwnFailures rfl ?_ failed
      cases value with
      | number n => exact violations_pathless each n
      | _ => exact List.forall_mem_singleton.mpr rfl
  | boolean =>
      refine .ofOwnFailures rfl ?_ failed
      cases value with
      | boolean truth => exact List.forall_mem_nil _
      | _ => exact List.forall_mem_singleton.mpr rfl
  | date =>
      refine .ofOwnFailures rfl ?_ failed
      cases value with
      | date instant => exact List.forall_mem_nil _
      | _ => exact List.forall_mem_singleton.mpr rfl
  | file each =>
      refine .ofOwnFailures rfl ?_ failed
      cases value with
      | file upload => exact violations_pathless each upload
      | _ => exact List.forall_mem_singleton.mpr rfl
  | @literal literals =>
      refine .ofOwnFailures rfl ?_ failed
      cases value with
      | string text =>
          rw [failures]
          by_cases member : text ∈ literals
          · rw [if_pos member]
            exact List.forall_mem_nil _
          · rw [if_neg member]
            exact List.forall_mem_singleton.mpr rfl
      | _ => exact List.forall_mem_singleton.mpr rfl
  | @optional inner _ induction =>
      by_cases undefined : value = .undefined
      · subst undefined
        cases failed
      · rw [validate_optional inner undefined] at failed
        exact (induction failed).optional
  | @nullable inner _ induction =>
      by_cases null : value = .null
      · subst null
        cases failed
      · rw [validate_nullable inner null] at failed
        exact (induction failed).nullable
  | @array item constraints _ each induction =>
      cases value with
      | array items =>
          rcases (validate_eq_error_iff _ _ error).mp failed with ⟨first, isFirst, rfl⟩
          rw [failures, List.head?_append, Option.or_eq_some_iff] at isFirst
          rcases isFirst with inItem | ⟨_, inConstraints⟩
          · rcases exists_of_head?_flatMap_under inItem with
              ⟨entry, member, inner, isInner, rfl⟩
            have found := List.mem_zipIdx_iff_getElem?.mp member
            have refused := (validate_eq_error_iff item entry.1 _).mpr ⟨inner, isInner, rfl⟩
            have under : (inner.under (toString entry.2)).error =
                inner.error.under (.index entry.2) :=
              congrArg Failure.error (inner.under_eq (.index entry.2))
            rw [under]
            exact (induction refused).item found
          · have member := List.mem_of_head? inConstraints
            exact .here member (violations_pathless each items first member) failed
      | _ => exact .ofOwnFailures rfl (List.forall_mem_singleton.mpr rfl) failed
  | @object fields _ induction =>
      cases value with
      | object entries =>
          by_cases absent : absentNames fields entries = []
          · rcases (validate_eq_error_iff _ _ error).mp failed with ⟨first, isFirst, rfl⟩
            rw [failures, if_pos absent, fieldFailures_eq_flatMap] at isFirst
            rcases exists_of_head?_flatMap_under isFirst with
              ⟨field, member, inner, isInner, rfl⟩
            have refused := (validate_eq_error_iff field.2 _ _).mpr ⟨inner, isInner, rfl⟩
            have under : (inner.under field.1).error = inner.error.under (.field field.1) :=
              congrArg Failure.error (inner.under_eq (.field field.1))
            rw [under]
            exact (induction field member refused).field member
          · -- Missing fields are reported at the object itself.
            have missing : failures (.object fields) (.object entries) =
                [.missing (absentNames fields entries)] := by
              rw [failures, if_neg absent]
            refine .ofOwnFailures ?_ ?_ failed
            · rw [missing, ownFailures, if_neg absent]
            · rw [missing]
              exact List.forall_mem_singleton.mpr rfl
      | _ => exact .ofOwnFailures rfl (List.forall_mem_singleton.mpr rfl) failed

/-- Where constraints name no place, the path of an error leads to the failure: its keys can
be followed to the last, and the part they lead to is refused for the same cause by the
schema they lead to, which is that schema's own affair. There is no path exactly when no
array or object is entered. -/
theorem error_path_leads_to_failure {schema : Schema} (pathless : schema.Meets .pathless)
    {value : Value} {error : Error} (failed : schema.validate value = .error error) :
    error.path ≠ some .root ∧
    ∃ entered target part, Leads schema value error.keys entered target part ∧
      (error.path = none ↔ entered = 0) ∧
      target.validate part = .error (.ofCause error.cause) ∧
      ∃ failure ∈ target.ownFailures part, failure.error = .ofCause error.cause := by
  rcases located_of_validate_eq_error pathless failed with
    ⟨notRoot, entered, target, part, leads, refused⟩
  refine ⟨notRoot, entered, target, part, leads, ?_, refused⟩
  rw [leads.entered_eq_length, List.length_eq_zero_iff, Error.keys_eq_nil_iff notRoot]

private def teamSchema : Schema :=
  .object
    [("name", .string []),
     ("members", .optional (.nullable (.array (.string [.username]) [])))]

private def teamValue : Value :=
  .object [("members", .array [.string "ada", .string "no one"]), ("name", .string "core")]

private def teamError : Error where
  path := some ⟨["members", "1"]⟩
  cause := .violation "username"
    "\"no one\" is not a valid username, only letters, digits and underscores are allowed"

private theorem teamSchema_pathless : teamSchema.Meets .pathless := by
  have member : (Schema.string [.username]).Meets .pathless :=
    .string (List.forall_mem_singleton.mpr (Constraint.ofPredicate_pathless _ _ _))
  refine .object (List.forall_mem_cons.mpr ⟨?_, List.forall_mem_singleton.mpr ?_⟩)
  · exact .string (List.forall_mem_nil _)
  · exact .optional (.nullable (.array member (List.forall_mem_nil _)))

theorem team_error_leads_to_second_member :
    teamSchema.Meets .pathless ∧ teamSchema.validate teamValue = .error teamError ∧
    teamError.path ≠ some .root ∧
    ∃ entered target part, Leads teamSchema teamValue ["members", "1"] entered target part ∧
      (teamError.path = none ↔ entered = 0) ∧
      target.validate part = .error (.ofCause teamError.cause) ∧
      ∃ failure ∈ target.ownFailures part, failure.error = .ofCause teamError.cause := by
  have failed : teamSchema.validate teamValue = .error teamError := by rfl
  exact ⟨teamSchema_pathless, failed, error_path_leads_to_failure teamSchema_pathless failed⟩

end Schema

end ValueSchema
