import ValueSchema.Proofs.Tags
import ValueSchema.Proofs.ValueTree

/-! # Unseen changes

A value may lose the entries that hold undefined, and its numbers may change in a way that no
constraint on them sees: it conforms to a schema exactly when it did before. Constraints on
arrays must not see it either, which they do not if all they do is count.
-/

namespace ValueSchema

/-- The constraints on numbers hold of the changed number as they hold of the number, and those
on arrays depend on the number of items. -/
def ConstraintDemand.blindTo (change : Binary64 → Binary64) : ConstraintDemand where
  string _ := True
  number constraint := ∀ n, constraint.Holds (change n) ↔ constraint.Holds n
  file _ := True
  array := Constraint.DependsOnCount

variable {change : Binary64 → Binary64}

namespace Value

/-- The value with its numbers changed and without the entries that hold undefined, at any
depth. Items of arrays and the value itself stay. -/
def reduced (change : Binary64 → Binary64) : Value → Value :=
  rebuild (mapNumber change) fun value => !value.isUndefined

@[simp] theorem reduced_array (items : List Value) :
    (Value.array items).reduced change = .array (items.map (reduced change)) :=
  rebuild_array _ _ items

@[simp] theorem reduced_object (entries : List (String × Value)) :
    (Value.object entries).reduced change =
      .object ((entries.filter fun entry => !entry.2.isUndefined).map fun entry =>
        (entry.1, entry.2.reduced change)) := rebuild_object _ _ entries

@[simp] theorem kind_reduced (value : Value) : (value.reduced change).kind = value.kind := by
  cases value <;> rfl

theorem reduced_eq_self {value : Value} (simple : value.kind.isCompound = false)
    (notNumber : value.kind ≠ .number) : value.reduced change = value := by
  rw [reduced, rebuild_leaf _ _ simple]
  cases value with
  | number n => exact absurd rfl notNumber
  | _ => rfl

/-- Only what is undefined is dropped, and an absent entry stores no less. -/
theorem stored_reduced {entries : List (String × Value)}
    (distinct : (Entries.names entries).Nodup) (name : String) :
    stored ((entries.filter fun entry => !entry.2.isUndefined).map fun entry =>
        (entry.1, entry.2.reduced change)) name =
      (stored entries name).reduced change := by
  rw [stored, stored, Entries.find?_map_value,
    Entries.find?_filter_value distinct fun value => !value.isUndefined]
  cases found : Entries.find? entries name with
  | none => rfl
  | some value =>
      cases value with
      | undefined => rfl
      | _ => rfl

theorem WellFormed.stored {entries : List (String × Value)}
    (wellFormed : (Value.object entries).WellFormed) (name : String) :
    (Value.stored entries name).WellFormed := by
  rw [Value.stored]
  cases found : Entries.find? entries name with
  | none => decide
  | some value =>
      exact wellFormed.entry ((Entries.find?_eq_some_iff wellFormed.distinct name value).mp found)

end Value

namespace Schema

theorem Meets.blindTo {schema : Schema} {demand : ConstraintDemand}
    (meets : schema.Meets demand)
    (number : ∀ constraint, demand.number constraint →
      ∀ n, constraint.Holds (change n) ↔ constraint.Holds n)
    (array : ∀ constraint, demand.array constraint → constraint.DependsOnCount) :
    schema.Meets (.blindTo change) := by
  apply meets.imp
  · exact fun _ _ => trivial
  · exact number
  · exact fun _ _ => trivial
  · exact array

theorem conforms_reduced_iff_of_refused {schema : Schema} {value : Value}
    (refused : ∀ same : Value, same.kind = value.kind → ¬schema.Conforms same) :
    schema.Conforms (value.reduced change) ↔ schema.Conforms value :=
  iff_of_false (refused _ value.kind_reduced) (refused _ rfl)

/-- Values that are neither compound nor numbers are left alone, and a schema that all others
are refused by does not see what happens to those. -/
theorem conforms_reduced_iff_of_leaf {schema : Schema}
    (leavesOnly : ∀ value, schema.Conforms value →
      value.kind.isCompound = false ∧ value.kind ≠ .number) (value : Value) :
    schema.Conforms (value.reduced change) ↔ schema.Conforms value := by
  by_cases leaf : value.kind.isCompound = false ∧ value.kind ≠ .number
  · rw [Value.reduced_eq_self leaf.1 leaf.2]
  · refine conforms_reduced_iff_of_refused fun same sameKind conforms => leaf ?_
    rw [← sameKind]
    exact leavesOnly same conforms

/-- A schema that is blind to the change of numbers does not see it, nor which entries were
undefined. -/
theorem conforms_reduced_iff {schema : Schema} (blind : schema.Meets (.blindTo change))
    {value : Value} (wellFormed : value.WellFormed) :
    schema.Conforms (value.reduced change) ↔ schema.Conforms value := by
  induction blind generalizing value with
  | string each =>
      exact conforms_reduced_iff_of_leaf (fun _ conforms => by cases conforms; exact ⟨rfl, nofun⟩)
        value
  | @number constraints each =>
      cases value with
      | number n =>
          change (Schema.number constraints).Conforms (.number (change n)) ↔ _
          rw [conforms_number_iff, conforms_number_iff]
          exact forall₂_congr fun constraint member => each constraint member n
      | _ =>
          refine conforms_reduced_iff_of_refused fun same sameKind conforms => ?_
          cases conforms
          cases sameKind
  | boolean =>
      exact conforms_reduced_iff_of_leaf (fun _ conforms => by cases conforms; exact ⟨rfl, nofun⟩)
        value
  | date =>
      exact conforms_reduced_iff_of_leaf (fun _ conforms => by cases conforms; exact ⟨rfl, nofun⟩)
        value
  | file each =>
      exact conforms_reduced_iff_of_leaf (fun _ conforms => by cases conforms; exact ⟨rfl, nofun⟩)
        value
  | literal =>
      exact conforms_reduced_iff_of_leaf (fun _ conforms => by cases conforms; exact ⟨rfl, nofun⟩)
        value
  | optional _ induction =>
      by_cases undefined : value = .undefined
      · subst undefined
        exact Iff.rfl
      · have defined : value.reduced change ≠ .undefined := by
          rwa [ne_eq, Value.eq_undefined_iff_kind, Value.kind_reduced,
            ← Value.eq_undefined_iff_kind]
        rw [conforms_optional_iff undefined, conforms_optional_iff defined]
        exact induction wellFormed
  | nullable _ induction =>
      by_cases null : value = .null
      · subst null
        exact Iff.rfl
      · have notNull : value.reduced change ≠ .null := by
          rwa [ne_eq, Value.eq_null_iff_kind, Value.kind_reduced, ← Value.eq_null_iff_kind]
        rw [conforms_nullable_iff null, conforms_nullable_iff notNull]
        exact induction wellFormed
  | array _ each induction =>
      cases value with
      | array items =>
          rw [Value.reduced_array, conforms_array_iff, conforms_array_iff, List.forall_mem_map]
          refine and_congr ?_ ?_
          · exact forall₂_congr fun element member => induction (wellFormed.item member)
          · refine forall₂_congr fun constraint member => ?_
            rw [Constraint.Holds, Constraint.Holds,
              each constraint member _ items (List.length_map _)]
      | _ =>
          refine conforms_reduced_iff_of_refused fun same sameKind conforms => ?_
          cases conforms
          cases sameKind
  | object _ induction =>
      cases value with
      | object entries =>
          rw [Value.reduced_object, conforms_object_iff_stored, conforms_object_iff_stored]
          refine forall₂_congr fun field member => ?_
          rw [Value.stored_reduced wellFormed.distinct]
          exact induction field member (wellFormed.stored field.1)
      | _ =>
          refine conforms_reduced_iff_of_refused fun same sameKind conforms => ?_
          cases conforms
          cases sameKind

end Schema

end ValueSchema
