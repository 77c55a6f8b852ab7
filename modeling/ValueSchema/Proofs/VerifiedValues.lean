import ValueSchema.Proofs.DeclaredNames
import ValueSchema.Proofs.FilesAndDates
import ValueSchema.Proofs.UnseenChanges

/-! # Verified values

A value can be validated as it is, or handed over as data and verified. The two agree on
whether it passes if the schema sees neither the signs of zeros nor which entries are
undefined; they agree on the error too if the value has neither. That a date comes back as
a clock shows it makes no difference, since a schema sees no more of it than its text.
-/

namespace ValueSchema

namespace Binary64

theorem negativeZero_atMost (n : Binary64) : negativeZero.atMost n = zero.atMost n := by
  cases n with
  | nan => rfl
  | infinite negative => cases negative <;> rfl
  | finite negative magnitude => rfl

theorem atMost_negativeZero (n : Binary64) : n.atMost negativeZero = n.atMost zero := by
  cases n with
  | nan => rfl
  | infinite negative => cases negative <;> rfl
  | finite negative magnitude => rfl

end Binary64

namespace Constraint

/-- Both zeros pass, or neither does. -/
def IgnoresZeroSign (constraint : Constraint Binary64) : Prop :=
  constraint.Holds .negativeZero ↔ constraint.Holds .zero

theorem minimum_ignoresZeroSign (bound : Binary64) : (minimum bound).IgnoresZeroSign := by
  simp [IgnoresZeroSign, minimum, Binary64.atMost_negativeZero]

theorem maximum_ignoresZeroSign (bound : Binary64) : (maximum bound).IgnoresZeroSign := by
  simp [IgnoresZeroSign, maximum, Binary64.negativeZero_atMost]

theorem IgnoresZeroSign.holds_unsignedZero_iff {constraint : Constraint Binary64}
    (ignores : constraint.IgnoresZeroSign) (n : Binary64) :
    constraint.Holds n.unsignedZero ↔ constraint.Holds n := by
  by_cases negative : n = .negativeZero
  · subst negative
    exact ignores.symm
  · rw [Binary64.unsignedZero_of_ne negative]

end Constraint

/-- The constraints on numbers ignore the sign of zeros, and those on arrays depend on the
number of items. -/
def ConstraintDemand.unsigned : ConstraintDemand where
  string _ := True
  number := Constraint.IgnoresZeroSign
  file _ := True
  array := Constraint.DependsOnCount

namespace Value

/-- No item of the array is undefined. -/
def hasDefinedItems : Value → Bool
  | .array items => items.all fun item => !item.isUndefined
  | _ => true

def isNegativeZero : Value → Bool
  | .number n => n = .negativeZero
  | _ => false

/-- Where only entries hold undefined, normalizing drops it and puts null nowhere. -/
theorem normal_eq_reduced {value : Value} (defined : value.isUndefined = false)
    (definedItems : value.Everywhere (·.hasDefinedItems)) :
    value.normal = value.reduced Binary64.unsignedZero := by
  induction value with
  | undefined => cases defined
  | array items induction =>
      rcases Everywhere.array_iff.mp definedItems with ⟨here, within⟩
      rw [hasDefinedItems, List.all_eq_true] at here
      rw [normal_array, reduced_array]
      refine congrArg Value.array (List.map_congr_left fun item member => ?_)
      have itemDefined : item.isUndefined = false := by simpa using here item member
      exact induction item member itemDefined (within item member)
  | object entries induction =>
      have within := (Everywhere.object_iff.mp definedItems).2
      rw [normal_object, reduced_object]
      refine congrArg Value.object (List.map_congr_left fun entry kept => ?_)
      rcases List.mem_filter.mp kept with ⟨member, entryKept⟩
      have entryDefined : entry.2.isUndefined = false := by simpa using entryKept
      rw [induction entry member entryDefined (within entry member)]
  | _ => rfl

theorem normal_eq_self {value : Value} (defined : value.Everywhere (·.isUndefined = false))
    (unsigned : value.Everywhere (·.isNegativeZero = false)) : value.normal = value := by
  have unchanged : value.normal = value.rebuild id fun _ => true := by
    refine rebuild_congr fun part member => ?_
    have partDefined := defined part member
    have partUnsigned := unsigned part member
    cases part with
    | undefined => cases partDefined
    | number n =>
        rw [isNegativeZero, decide_eq_false_iff_not] at partUnsigned
        exact ⟨congrArg Value.number (Binary64.unsignedZero_of_ne partUnsigned), rfl⟩
    | _ => exact ⟨rfl, rfl⟩
  exact unchanged.trans value.rebuild_id

end Value

/-! ## Dates in messages -/

@[simp] theorem Run.mismatch_carried (value : Value) (expected : Expected) :
    Run.mismatch value.carried expected = Run.mismatch value expected := by
  rw [Run.mismatch, Run.mismatch, Error.typeMismatch, Error.typeMismatch,
    value.description_carried]

namespace Schema

/-- The values are of one kind, and the same happens to both. -/
def TreatsAlike (schema : Schema) (value other : Value) : Prop :=
  value.kind = other.kind ∧ schema.check value = schema.check other

theorem related_carried_of_mismatch {schema : Schema} {value : Value} {expected : Expected}
    (mismatch : schema.check value = .mismatch value expected)
    (carriedMismatch : schema.check value.carried = .mismatch value.carried expected) :
    Related TreatsAlike schema value.carried value := by
  apply Related.whole
  refine ⟨value.kind_carried, ?_⟩
  rw [mismatch, carriedMismatch, Run.mismatch_carried]

/-- A date is accepted whatever it is, and where it is not, its text is shown. -/
theorem related_carried (schema : Schema) (value : Value) :
    Related TreatsAlike schema value.carried value := by
  induction schema generalizing value with
  | optional inner induction => exact .optional (induction value)
  | nullable inner induction => exact .nullable (induction value)
  | array item constraints induction =>
      cases value with
      | array items =>
          rw [Value.carried_array]
          refine .array (List.length_map _) fun position value other found otherFound => ?_
          rw [List.getElem?_map, otherFound, Option.map_some, Option.some.injEq] at found
          exact found ▸ induction other
      | _ => exact related_carried_of_mismatch rfl rfl
  | object fields induction =>
      cases value with
      | object entries =>
          rw [Value.carried_object]
          refine .object (fun field _ => by rw [Entries.names_map_value]) ?_
          intro field member value other found otherFound
          rw [Entries.find?_map_value, otherFound, Option.map_some, Option.some.injEq] at found
          exact found ▸ induction field member other
      | _ => exact related_carried_of_mismatch rfl rfl
  | date =>
      cases value with
      | date instant =>
          have accepted (any : Instant) : Schema.date.check (.date any) = .accept := rfl
          exact .whole ⟨rfl, (accepted instant.carried).trans (accepted instant).symm⟩
      | _ => exact related_carried_of_mismatch rfl rfl
  | _ =>
      cases value with
      | date instant => exact related_carried_of_mismatch rfl rfl
      | array items => exact related_carried_of_mismatch rfl rfl
      | object entries => exact related_carried_of_mismatch rfl rfl
      | _ => exact .whole ⟨rfl, rfl⟩

theorem check_carried {schema : Schema} (counting : schema.Meets .counting) (value : Value) :
    schema.check value.carried = schema.check value :=
  (schema.related_carried value).check_eq (fun _ _ _ alike => alike.1)
    (fun _ _ _ alike => alike.2) counting

/-! ## Validation and verification -/

theorem Meets.counting {schema : Schema} (unsigned : schema.Meets .unsigned) :
    schema.Meets .counting := by
  apply unsigned.imp
  · exact fun _ _ => trivial
  · exact fun _ _ => trivial
  · exact fun _ _ => trivial
  · exact fun _ counts => counts

theorem accepts_normal {schema : Schema} (unsigned : schema.Meets .unsigned) {value : Value}
    (wellFormed : value.WellFormed) (defined : value.isUndefined = false)
    (definedItems : value.Everywhere (·.hasDefinedItems)) :
    schema.accepts value.normal = schema.accepts value := by
  have blind : schema.Meets (.blindTo Binary64.unsignedZero) :=
    unsigned.blindTo (fun _ ignores => ignores.holds_unsignedZero_iff) fun _ counts => counts
  rw [Value.normal_eq_reduced defined definedItems, Bool.eq_iff_iff, accepts_iff_conforms,
    accepts_iff_conforms]
  exact conforms_reduced_iff blind wellFormed

/-- Bounds on numbers ignore the signs of zeros. Where all constraints on numbers do, and
those on arrays only count, a value with no undefined item passes as data exactly when it
passes as it is. If it has no undefined and no negative zero in it at all, the two results
are the same, errors included. -/
theorem verify_agrees_with_validate :
    (∀ bound : Binary64, (Constraint.minimum bound).IgnoresZeroSign ∧
      (Constraint.maximum bound).IgnoresZeroSign) ∧
    ∀ schema : Schema, schema.Meets .unsigned →
      ∀ value : Value, value.WellFormed → value.isUndefined = false →
        value.Everywhere (·.hasDefinedItems) → value.Everywhere (·.hasFourDigitYear) →
        value.Everywhere (·.hasSmallSize) →
          (schema.verify value.toData).isOk = (schema.validate value).isOk ∧
          (value.Everywhere (·.isUndefined = false) →
            value.Everywhere (·.isNegativeZero = false) →
              schema.verify value.toData = (schema.validate value).map fun _ => ()) := by
  refine ⟨fun bound => ⟨Constraint.minimum_ignoresZeroSign bound,
    Constraint.maximum_ignoresZeroSign bound⟩, ?_⟩
  intro schema unsigned value wellFormed defined definedItems years sizes
  have converted : value.toData.toValue = .ok value.normal.carried :=
    Value.toValue_toData wellFormed years (sizes.imp Value.hasNumericSize_of_hasSmallSize)
  have verified : schema.verify value.toData = (schema.validate value.normal).map fun _ => () := by
    rw [verify_eq_validate schema converted, validate, validate, check_carried unsigned.counting]
    cases (schema.check value.normal).result <;> rfl
  constructor
  · have normalAccepted := accepts_normal unsigned wellFormed defined definedItems
    rw [accepts, accepts] at normalAccepted
    rw [verified, ← normalAccepted]
    cases schema.validate value.normal <;> rfl
  · intro allDefined allUnsigned
    rw [verified, Value.normal_eq_self allDefined allUnsigned]

private def receiptSchema : Schema :=
  .object
    [("amount", .number [.minimum .zero]),
     ("lines", .array (.object [("note", .optional (.string []))])
      ((Length.exactly 1).constraints "array length" List.length))]

private def receipt (amount : Binary64) (note : Value) : Value :=
  .object [("amount", .number amount), ("lines", .array [.object [("note", note)]])]

private theorem receiptSchema_unsigned : receiptSchema.Meets .unsigned := by
  have amount : (Schema.number [.minimum .zero]).Meets .unsigned :=
    .number (List.forall_mem_singleton.mpr (Constraint.minimum_ignoresZeroSign _))
  have line : (Schema.object [("note", .optional (.string []))]).Meets .unsigned :=
    .object (List.forall_mem_singleton.mpr (.optional (.string (List.forall_mem_nil _))))
  refine .object (List.forall_mem_cons.mpr ⟨amount, List.forall_mem_singleton.mpr ?_⟩)
  exact .array line (Length.constraints_dependOnCount _ _)

private def notedNull : Error :=
  (((Error.typeMismatch .null (.ofKind .string)).under (.field "note")).under (.index 0)).under
    (.field "lines")

/-- One receipt passes both ways, although as data its amount loses its sign and its note goes.
Another one is refused for its note both ways. -/
theorem receipts_fare_alike_as_data :
    receiptSchema.Meets .unsigned ∧
    (receiptSchema.validate (receipt .negativeZero .undefined)).isOk = true ∧
    (receiptSchema.verify (receipt .negativeZero .undefined).toData).isOk = true ∧
    receiptSchema.validate (receipt .zero .null) = .error notedNull ∧
    receiptSchema.verify (receipt .zero .null).toData = .error notedNull := by
  have agrees := verify_agrees_with_validate.2 receiptSchema receiptSchema_unsigned
  have passing := agrees (receipt .negativeZero .undefined) (by decide) rfl (by decide)
    (by decide) (by decide)
  have refused := agrees (receipt .zero .null) (by decide) rfl (by decide) (by decide)
    (by decide)
  have passes : (receiptSchema.validate (receipt .negativeZero .undefined)).isOk = true := by rfl
  have fails : receiptSchema.validate (receipt .zero .null) = .error notedNull := by rfl
  refine ⟨receiptSchema_unsigned, passes, passing.1.trans passes, fails, ?_⟩
  rw [refused.2 (by decide) (by decide), fails]
  rfl

end Schema

end ValueSchema
