import ValueSchema.Proofs.UnseenChanges

/-! # Absent entries

An entry that holds undefined tells a schema no more than one that is absent: what passes
with such entries passes without them, and the other way round.
-/

namespace ValueSchema

namespace Value

/-- The value without the entries that hold undefined, at any depth. Items of arrays and the
value itself stay. -/
def pruned : Value → Value := rebuild id fun value => !value.isUndefined

theorem pruned_eq_reduced (value : Value) : value.pruned = value.reduced id := by
  rw [pruned, reduced, mapNumber_id]

end Value

namespace Schema

theorem conforms_pruned_iff {schema : Schema} (counting : schema.Meets .counting)
    {value : Value} (wellFormed : value.WellFormed) :
    schema.Conforms value.pruned ↔ schema.Conforms value := by
  have blind : schema.Meets (.blindTo id) :=
    counting.blindTo (fun _ _ _ => Iff.rfl) fun _ counts => counts
  rw [Value.pruned_eq_reduced]
  exact conforms_reduced_iff blind wellFormed

/-- Where constraints on arrays do no more than count, a value passes exactly when it passes
without the entries that hold undefined. -/
theorem accepts_pruned {schema : Schema} (counting : schema.Meets .counting) {value : Value}
    (wellFormed : value.WellFormed) : schema.accepts value.pruned = schema.accepts value := by
  rw [Bool.eq_iff_iff, accepts_iff_conforms, accepts_iff_conforms]
  exact conforms_pruned_iff counting wellFormed

private def surveySchema : Schema :=
  .object
    [("answers", .array (.object [("text", .optional (.string []))])
      ((Length.exactly 2).constraints "array length" List.length)),
     ("sent", .nullable (.optional .date))]

private def survey : Value :=
  .object
    [("answers", .array
      [.object [("text", .undefined)], .object [("spare", .undefined), ("text", .string "")]]),
     ("sent", .undefined)]

private theorem surveySchema_counting : surveySchema.Meets .counting := by
  have answer : (Schema.object [("text", .optional (.string []))]).Meets .counting :=
    .object (List.forall_mem_singleton.mpr (.optional (.string (List.forall_mem_nil _))))
  refine .object (List.forall_mem_cons.mpr ⟨?_, List.forall_mem_singleton.mpr ?_⟩)
  · exact .array answer (Length.constraints_dependOnCount _ _)
  · exact .nullable (.optional .date)

theorem survey_passes_pruned :
    surveySchema.Meets .counting ∧ survey.WellFormed ∧ surveySchema.accepts survey = true ∧
    surveySchema.accepts survey.pruned = surveySchema.accepts survey := by
  have wellFormed : survey.WellFormed := by decide
  exact ⟨surveySchema_counting, wellFormed, by rfl,
    accepts_pruned surveySchema_counting wellFormed⟩

end Schema

end ValueSchema
