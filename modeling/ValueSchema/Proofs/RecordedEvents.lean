import ValueSchema.Proofs.Conformance

/-! # Recorded events

What safe validation records follows from where a refusal has come from: the check that met it
adds at most one event, all that were passed before it add none, and the refusal itself is
recorded last, once, with the path that it has on the outside.
-/

namespace ValueSchema

/-! ## Where a refusal comes from -/

/-- The first constraint that refuses the subject has the name, and the error is the one that it
returns. -/
inductive RefusedFirst {α : Type} (subject : α) :
    List (Constraint α) → String → Error → Prop
  | intro {before after : List (Constraint α)} {constraint : Constraint α} {error : Error}
      (passed : ∀ earlier ∈ before, earlier.Holds subject)
      (refused : constraint.check subject = .error error) :
      RefusedFirst subject (before ++ constraint :: after) constraint.name error

/-- The value is of the kind, or it is one of the literals. -/
def Expected.Met : Expected → Value → Prop
  | .ofKind kind, value => value.kind = kind
  | .oneOf literals, value => ∃ text ∈ literals, value = .string text

namespace Schema

/-- What is asked of a value before its constraints and its parts are looked at. The layers of
optional and nullable schemas ask for nothing. -/
def expected? : Schema → Option Expected
  | .string _ => some (.ofKind .string)
  | .number _ => some (.ofKind .number)
  | .boolean => some (.ofKind .boolean)
  | .date => some (.ofKind .date)
  | .file _ => some (.ofKind .file)
  | .literal literals => some (.oneOf literals)
  | .optional _ | .nullable _ => none
  | .array _ _ => some (.ofKind .array)
  | .object _ => some (.ofKind .object)

/-- The value is refused with the error, which has come from the origin: the look at the kind or
at the literals, a constraint of the schema or of one of its parts, or the search for missing
fields. Whatever comes before it, in the order of checks, conforms. -/
inductive Refuses : Schema → Value → Origin → Error → Prop
  | kind {schema value expected} (asked : schema.expected? = some expected)
      (unmet : ¬expected.Met value) :
      Refuses schema value .kind (.typeMismatch value expected)
  | string {constraints text name error} (refused : RefusedFirst text constraints name error) :
      Refuses (.string constraints) (.string text) (.constraint name) error
  | number {constraints n name error} (refused : RefusedFirst n constraints name error) :
      Refuses (.number constraints) (.number n) (.constraint name) error
  | file {constraints upload name error} (refused : RefusedFirst upload constraints name error) :
      Refuses (.file constraints) (.file upload) (.constraint name) error
  | array {item constraints items name error} (passed : ∀ element ∈ items, item.Conforms element)
      (refused : RefusedFirst items constraints name error) :
      Refuses (.array item constraints) (.array items) (.constraint name) error
  | missing {fields entries} (absent : absentNames fields entries ≠ []) :
      Refuses (.object fields) (.object entries) (.presence (absentNames fields entries))
        (.missingFields (absentNames fields entries))
  | optional {inner value origin error} (defined : value ≠ .undefined)
      (within : Refuses inner value origin error) :
      Refuses (.optional inner) value origin error
  | nullable {inner value origin error} (notNull : value ≠ .null)
      (within : Refuses inner value origin error) :
      Refuses (.nullable inner) value origin error
  | item {item constraints before element after origin error}
      (passed : ∀ earlier ∈ before, item.Conforms earlier)
      (within : Refuses item element origin error) :
      Refuses (.array item constraints) (.array (before ++ element :: after)) origin
        (error.under (.index before.length))
  | field {before after : List (String × Schema)} {field entries origin error}
      (present : absentNames (before ++ field :: after) entries = [])
      (passed : ∀ earlier ∈ before, earlier.2.Conforms (Value.stored entries earlier.1))
      (within : Refuses field.2 (Value.stored entries field.1) origin error) :
      Refuses (.object (before ++ field :: after)) (.object entries) origin
        (error.under (.field field.1))

end Schema

/-! ## A refusal is the first failure -/

theorem RefusedFirst.violations_eq {α : Type} {subject : α} {constraints : List (Constraint α)}
    {name : String} {error : Error} (refused : RefusedFirst subject constraints name error) :
    ∃ rest, violations constraints subject = ⟨.constraint name, error⟩ :: rest := by
  cases refused with
  | @intro before after constraint _ passed refused =>
      have none : violations before subject = [] :=
        (Schema.violations_eq_nil_iff before subject).mpr passed
      rw [violations] at none
      refine ⟨violations after subject, ?_⟩
      rw [violations, List.filterMap_append, none, List.nil_append, List.filterMap_cons, refused]
      rfl

theorem Origin.length_events_le (origin : Origin) : origin.events.length ≤ 1 := by
  cases origin with
  | kind => exact Nat.zero_le 1
  | constraint name => exact Nat.le_refl 1
  | presence missing => exact Nat.le_refl 1

namespace Schema

theorem failures_of_unmet {schema : Schema} {expected : Expected}
    (asked : schema.expected? = some expected) {value : Value} (unmet : ¬expected.Met value) :
    schema.failures value = [.mismatch value expected] := by
  cases schema with
  | optional inner => cases asked
  | nullable inner => cases asked
  | literal literals =>
      cases asked
      cases value with
      | string text => exact if_neg fun member => unmet ⟨text, member, rfl⟩
      | _ => rfl
  | _ =>
      cases asked
      cases value <;> first | exact absurd rfl unmet | rfl

theorem Refuses.failures_eq {schema : Schema} {value : Value} {origin : Origin} {error : Error}
    (refuses : Refuses schema value origin error) :
    ∃ rest, schema.failures value = ⟨origin, error⟩ :: rest := by
  induction refuses with
  | kind asked unmet => exact ⟨[], failures_of_unmet asked unmet⟩
  | string refused => exact refused.violations_eq
  | number refused => exact refused.violations_eq
  | file refused => exact refused.violations_eq
  | @array item constraints items name error passed refused =>
      have none := (itemFailures_eq_nil_iff item items).mpr fun element member =>
        (item.failures_eq_nil_iff element).mpr (passed element member)
      rw [failures, none, List.nil_append]
      exact refused.violations_eq
  | missing absent => exact ⟨[], if_neg absent⟩
  | optional defined _ induction =>
      rw [failures_optional _ defined]
      exact induction
  | nullable notNull _ induction =>
      rw [failures_nullable _ notNull]
      exact induction
  | @item item constraints before element after origin error passed _ induction =>
      have none := (itemFailures_eq_nil_iff item before).mpr fun element member =>
        (item.failures_eq_nil_iff element).mpr (passed element member)
      rcases induction with ⟨rest, first⟩
      rw [failures, List.zipIdx_append, List.flatMap_append, none, List.zipIdx_cons,
        List.flatMap_cons, first, List.nil_append, Nat.zero_add, List.map_cons]
      have under := Failure.under_eq ⟨origin, error⟩ (.index before.length)
      exact ⟨_, congrArg (· :: _) under⟩
  | @field before after field entries origin error present passed _ induction =>
      have none : (before.flatMap fun field =>
          (field.2.failures (Value.stored entries field.1)).map (·.under field.1)) = [] :=
        List.flatMap_eq_nil_iff.mpr fun earlier member =>
          List.map_eq_nil_iff.mpr ((earlier.2.failures_eq_nil_iff _).mpr (passed earlier member))
      rcases induction with ⟨rest, first⟩
      rw [failures, if_pos present, fieldFailures_eq_flatMap, List.flatMap_append, none,
        List.flatMap_cons, first, List.map_cons]
      have under := Failure.under_eq ⟨origin, error⟩ (.field field.1)
      exact ⟨_, congrArg (· :: _) under⟩

end Schema

/-! ## What does not conform is refused -/

/-- Not all members of a list meet a demand only if there is a first one that does not. -/
theorem exists_first_of_not_forall {α : Type} {demand : α → Prop} {list : List α}
    (unmet : ¬∀ member ∈ list, demand member) :
    ∃ before first after, list = before ++ first :: after ∧
      (∀ earlier ∈ before, demand earlier) ∧ ¬demand first := by
  induction list with
  | nil => exact absurd (List.forall_mem_nil demand) unmet
  | cons head rest induction =>
      by_cases met : demand head
      · rw [List.forall_mem_cons, not_and] at unmet
        rcases induction (unmet met) with ⟨before, first, after, rfl, passed, failed⟩
        exact ⟨head :: before, first, after, rfl, List.forall_mem_cons.mpr ⟨met, passed⟩, failed⟩
      · exact ⟨[], head, rest, rfl, List.forall_mem_nil demand, met⟩

theorem exists_refusedFirst {α : Type} {subject : α} {constraints : List (Constraint α)}
    (refused : ¬∀ constraint ∈ constraints, constraint.Holds subject) :
    ∃ name error, RefusedFirst subject constraints name error := by
  rcases exists_first_of_not_forall refused with ⟨before, first, after, rfl, passed, failed⟩
  rw [Constraint.Holds] at failed
  cases result : first.check subject with
  | ok => exact absurd result failed
  | error error => exact ⟨first.name, error, .intro passed result⟩

namespace Schema

theorem exists_refuses_of_not_conforms {schema : Schema} {value : Value}
    (refused : ¬schema.Conforms value) : ∃ origin error, Refuses schema value origin error := by
  induction schema generalizing value with
  | string constraints =>
      cases value with
      | string text =>
          rw [conforms_string_iff] at refused
          rcases exists_refusedFirst refused with ⟨name, error, first⟩
          exact ⟨_, _, .string first⟩
      | _ => exact ⟨_, _, .kind rfl (by intro met; cases met)⟩
  | number constraints =>
      cases value with
      | number n =>
          rw [conforms_number_iff] at refused
          rcases exists_refusedFirst refused with ⟨name, error, first⟩
          exact ⟨_, _, .number first⟩
      | _ => exact ⟨_, _, .kind rfl (by intro met; cases met)⟩
  | boolean =>
      cases value with
      | boolean truth => exact absurd .boolean refused
      | _ => exact ⟨_, _, .kind rfl (by intro met; cases met)⟩
  | date =>
      cases value with
      | date instant => exact absurd .date refused
      | _ => exact ⟨_, _, .kind rfl (by intro met; cases met)⟩
  | file constraints =>
      cases value with
      | file upload =>
          rw [conforms_file_iff] at refused
          rcases exists_refusedFirst refused with ⟨name, error, first⟩
          exact ⟨_, _, .file first⟩
      | _ => exact ⟨_, _, .kind rfl (by intro met; cases met)⟩
  | literal literals =>
      refine ⟨_, _, .kind rfl ?_⟩
      rintro ⟨text, member, rfl⟩
      exact refused (.literal member)
  | optional inner induction =>
      by_cases undefined : value = .undefined
      · subst undefined
        exact absurd .absent refused
      · rw [conforms_optional_iff undefined] at refused
        rcases induction refused with ⟨origin, error, within⟩
        exact ⟨origin, error, .optional undefined within⟩
  | nullable inner induction =>
      by_cases null : value = .null
      · subst null
        exact absurd .null refused
      · rw [conforms_nullable_iff null] at refused
        rcases induction refused with ⟨origin, error, within⟩
        exact ⟨origin, error, .nullable null within⟩
  | array item constraints induction =>
      cases value with
      | array items =>
          rw [conforms_array_iff] at refused
          by_cases passed : ∀ element ∈ items, item.Conforms element
          · rcases exists_refusedFirst fun holds => refused ⟨passed, holds⟩ with
              ⟨name, error, first⟩
            exact ⟨_, _, .array passed first⟩
          · rcases exists_first_of_not_forall passed with
              ⟨before, first, after, rfl, passed, failed⟩
            rcases induction failed with ⟨origin, error, within⟩
            exact ⟨_, _, .item passed within⟩
      | _ => exact ⟨_, _, .kind rfl (by intro met; cases met)⟩
  | object fields induction =>
      cases value with
      | object entries =>
          rw [conforms_object_iff, ← absentNames_eq_nil_iff] at refused
          by_cases present : absentNames fields entries = []
          · rcases exists_first_of_not_forall fun stored => refused ⟨present, stored⟩ with
              ⟨before, first, after, rfl, passed, failed⟩
            rcases induction first List.mem_append_cons_self failed with ⟨origin, error, within⟩
            exact ⟨_, _, .field present passed within⟩
          · exact ⟨_, _, .missing present⟩
      | _ => exact ⟨_, _, .kind rfl (by intro met; cases met)⟩

/-! ## Events -/

theorem Refuses.validate_eq {schema : Schema} {value : Value} {origin : Origin} {error : Error}
    (refuses : Refuses schema value origin error) : schema.validate value = .error error := by
  rcases refuses.failures_eq with ⟨rest, failures⟩
  rw [validate_eq_error_iff, failures]
  exact ⟨_, rfl, rfl⟩

/-- The missing names are those that the error lists. -/
theorem Refuses.cause_of_presence {schema : Schema} {value : Value} {missing : List String}
    {error : Error} (refuses : Refuses schema value (.presence missing) error) :
    error.cause = .missingFields missing := by
  generalize same : Origin.presence missing = origin at refuses
  induction refuses with
  | missing absent =>
      cases same
      rfl
  | optional _ _ induction => exact induction same
  | nullable _ _ induction => exact induction same
  | item _ _ induction => exact induction same
  | field _ _ _ induction => exact induction same
  | _ => cases same

/-- The record of an error as it is returned. -/
def failureEvent (error : Error) : Event :=
  .validationFailed error.kindName ((error.path.map Path.dotted).getD "")

theorem events_of_accepts {schema : Schema} {value : Value}
    (accepted : schema.accepts value = true) : (schema.safeValidate value).1 = [] := by
  rw [safeValidate, check_eq_ofFailures,
    (schema.accepts_iff_failures_eq_nil value).mp accepted]
  rfl

theorem Refuses.events_eq {schema : Schema} {value : Value} {origin : Origin} {error : Error}
    (refuses : Refuses schema value origin error) :
    (schema.safeValidate value).1 = origin.events ++ [failureEvent error] := by
  rcases refuses.failures_eq with ⟨rest, failures⟩
  rw [safeValidate, check_eq_ofFailures, failures]
  rfl

theorem exists_refuses_of_not_accepts {schema : Schema} {value : Value}
    (refused : ¬schema.accepts value = true) : ∃ origin error, Refuses schema value origin error :=
  exists_refuses_of_not_conforms fun conforms =>
    refused ((schema.accepts_iff_conforms value).mpr conforms)

theorem length_events_le (schema : Schema) (value : Value) :
    (schema.safeValidate value).1.length ≤ 2 := by
  by_cases accepted : schema.accepts value = true
  · rw [events_of_accepts accepted]
    exact Nat.zero_le 2
  · rcases exists_refuses_of_not_accepts accepted with ⟨origin, error, refuses⟩
    rw [refuses.events_eq, List.length_append]
    exact Nat.add_le_add_right origin.length_events_le 1

/-- Nothing is recorded about a value that passes. Every other value is refused by one of three
sorts of checks, and then the error is recorded last, with the sort of failure and the path. In
front of it stands the name of the constraint that refused the value, or the missing names that
the error lists, or nothing if it was the look at the kind or the literals. So there are never
more than two events, and they tell of the value only what their details say. -/
theorem events_of_outcome (schema : Schema) (value : Value) :
    (schema.accepts value = true → (schema.safeValidate value).1 = []) ∧
    (¬schema.accepts value = true → ∃ origin error, Refuses schema value origin error) ∧
    (∀ error, Refuses schema value .kind error →
      schema.validate value = .error error ∧
      (schema.safeValidate value).1 = [failureEvent error]) ∧
    (∀ name error, Refuses schema value (.constraint name) error →
      schema.validate value = .error error ∧
      (schema.safeValidate value).1 = [.constraintRejected name, failureEvent error]) ∧
    (∀ missing error, Refuses schema value (.presence missing) error →
      schema.validate value = .error error ∧ error.cause = .missingFields missing ∧
      (schema.safeValidate value).1 = [.fieldsMissing missing, failureEvent error]) ∧
    (schema.safeValidate value).1.length ≤ 2 ∧
    ∀ other otherValue origin error otherError, Refuses schema value origin error →
      Refuses other otherValue origin otherError → error.kindName = otherError.kindName →
        error.path = otherError.path →
          (schema.safeValidate value).1 = (other.safeValidate otherValue).1 := by
  refine ⟨events_of_accepts, exists_refuses_of_not_accepts, ?_, ?_, ?_,
    length_events_le schema value, ?_⟩
  · intro error refuses
    exact ⟨refuses.validate_eq, refuses.events_eq⟩
  · intro name error refuses
    exact ⟨refuses.validate_eq, refuses.events_eq⟩
  · intro missing error refuses
    exact ⟨refuses.validate_eq, refuses.cause_of_presence, refuses.events_eq⟩
  · intro other otherValue origin error otherError refuses otherRefuses sameKind samePath
    have sameEvent : failureEvent error = failureEvent otherError := by
      rw [failureEvent, failureEvent, sameKind, samePath]
    rw [refuses.events_eq, otherRefuses.events_eq, sameEvent]

private def memberSchema : Schema := .object [("name", .string [.username])]

private def crewSchema : Schema :=
  .object [("port", .string []), ("members", .optional (.array memberSchema []))]

private def member (name : String) : Value := .object [("name", .string name)]

private def crew : Value :=
  .object [("members", .array [member "ada", member "no one"]), ("port", .string "Kiel")]

private def nameError : Error :=
  .violation "username"
    "\"no one\" is not a valid username, only letters, digits and underscores are allowed"

private theorem crew_refused :
    Refuses crewSchema crew (.constraint "username")
      (((nameError.under (.field "name")).under (.index 1)).under (.field "members")) := by
  have port : (Schema.string []).Conforms (.string "Kiel") := .string (List.forall_mem_nil _)
  have first : memberSchema.Conforms (member "ada") :=
    (memberSchema.accepts_iff_conforms _).mp (by rfl)
  have name : Refuses (.string [.username]) (.string "no one") (.constraint "username")
      nameError := .string (.intro (List.forall_mem_nil _) rfl)
  have second : Refuses memberSchema (member "no one") (.constraint "username")
      (nameError.under (.field "name")) :=
    .field rfl (List.forall_mem_nil _) name
  have members : Refuses (.array memberSchema []) (.array [member "ada", member "no one"])
      (.constraint "username") ((nameError.under (.field "name")).under (.index 1)) :=
    .item (List.forall_mem_singleton.mpr first) second
  exact .field rfl (List.forall_mem_singleton.mpr port)
    (.optional (by intro equal; cases equal) members)

/-- A name that is refused two levels down is recorded once there and once on the outside. -/
theorem crew_events :
    Refuses crewSchema crew (.constraint "username")
      (((nameError.under (.field "name")).under (.index 1)).under (.field "members")) ∧
    (crewSchema.safeValidate crew).1 =
      [.constraintRejected "username",
       .validationFailed "constraint_violation" "members.1.name"] :=
  ⟨crew_refused, ((events_of_outcome crewSchema crew).2.2.2.1 _ _ crew_refused).2⟩

end Schema

end ValueSchema
