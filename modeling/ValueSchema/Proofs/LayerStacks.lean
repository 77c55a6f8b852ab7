import ValueSchema.Proofs.Contexts

/-! # Stacks of layers

Optional and nullable layers, in any number and any order, come to no more than whether there is
one of each sort. This holds of results and of tags, and wherever the stack is put.
-/

namespace ValueSchema

inductive Layer where
  | optional
  | nullable
  deriving DecidableEq

namespace Layer

def wrap : Layer → Schema → Schema
  | .optional, schema => .optional schema
  | .nullable, schema => .nullable schema

/-- The value passes the layer by itself, whatever is inside. -/
def passes : Layer → Value → Bool
  | .optional, value => value.isUndefined
  | .nullable, value => value.isNull

end Layer

namespace Schema

/-- The schema inside the layers, of which the first is the outermost. -/
def stacked (schema : Schema) (layers : List Layer) : Schema := layers.foldr Layer.wrap schema

/-! ## One layer -/

theorem validate_wrap (layer : Layer) (schema : Schema) (value : Value) :
    (layer.wrap schema).validate value =
      if layer.passes value then .ok value else schema.validate value := by
  cases layer with
  | optional => cases value <;> rfl
  | nullable => cases value <;> rfl

theorem isOptional_wrap (layer : Layer) (schema : Schema) :
    (layer.wrap schema).isOptional = (decide (layer = .optional) || schema.isOptional) := by
  cases layer <;> rfl

theorem isNullable_wrap (layer : Layer) (schema : Schema) :
    (layer.wrap schema).isNullable = (decide (layer = .nullable) || schema.isNullable) := by
  cases layer <;> rfl

/-! ## All layers -/

theorem exists_passes_iff (layers : List Layer) (value : Value) :
    (∃ layer ∈ layers, layer.passes value = true) ↔
      (value.isUndefined = true ∧ .optional ∈ layers) ∨
        (value.isNull = true ∧ .nullable ∈ layers) := by
  constructor
  · rintro ⟨layer, member, passes⟩
    cases layer with
    | optional => exact .inl ⟨passes, member⟩
    | nullable => exact .inr ⟨passes, member⟩
  · rintro (⟨undefined, member⟩ | ⟨null, member⟩)
    · exact ⟨.optional, member, undefined⟩
    · exact ⟨.nullable, member, null⟩

/-- What one of the layers lets pass passes; all else is left to the schema inside. -/
theorem validate_stacked (schema : Schema) (layers : List Layer) (value : Value) :
    (schema.stacked layers).validate value =
      if ∃ layer ∈ layers, layer.passes value = true then .ok value
      else schema.validate value := by
  induction layers with
  | nil => simp [stacked]
  | cons layer rest induction =>
      change (layer.wrap (schema.stacked rest)).validate value = _
      rw [validate_wrap, induction]
      by_cases passes : layer.passes value = true <;> simp [passes]

theorem isOptional_stacked (schema : Schema) (layers : List Layer) :
    (schema.stacked layers).isOptional = (decide (.optional ∈ layers) || schema.isOptional) := by
  induction layers with
  | nil => simp [stacked]
  | cons layer rest induction =>
      change (layer.wrap (schema.stacked rest)).isOptional = _
      rw [isOptional_wrap, induction]
      simp [eq_comm, Bool.or_assoc]

theorem isNullable_stacked (schema : Schema) (layers : List Layer) :
    (schema.stacked layers).isNullable = (decide (.nullable ∈ layers) || schema.isNullable) := by
  induction layers with
  | nil => simp [stacked]
  | cons layer rest induction =>
      change (layer.wrap (schema.stacked rest)).isNullable = _
      rw [isNullable_wrap, induction]
      simp [eq_comm, Bool.or_assoc]

theorem stacked_agrees (schema : Schema) {layers others : List Layer}
    (sameLayers : ∀ layer, layer ∈ others ↔ layer ∈ layers) :
    (schema.stacked others).Agrees (schema.stacked layers) := by
  intro value
  rw [validate_stacked, validate_stacked]
  simp only [sameLayers]

/-- A stack accepts undefined where it has an optional layer, null where it has a nullable one, and
gives the results of the schema inside in all other cases. Its tags follow the same rule. So no
context tells two stacks of the same sorts of layers apart: a layer is as good as two of its sort,
and two layers may change places. -/
theorem stack_collapses (schema : Schema) (layers : List Layer) :
    (∀ value, (schema.stacked layers).validate value =
      if (value.isUndefined = true ∧ .optional ∈ layers) ∨
          (value.isNull = true ∧ .nullable ∈ layers) then .ok value
      else schema.validate value) ∧
    (schema.stacked layers).isOptional = (decide (.optional ∈ layers) || schema.isOptional) ∧
    (schema.stacked layers).isNullable = (decide (.nullable ∈ layers) || schema.isNullable) ∧
    (∀ others : List Layer, (∀ layer, layer ∈ others ↔ layer ∈ layers) →
      ∀ (context : Context) (value : Value),
        (context.fill (schema.stacked others)).validate value =
          (context.fill (schema.stacked layers)).validate value) ∧
    ∀ (context : Context) (layer other : Layer) (value : Value),
      (context.fill (layer.wrap (layer.wrap schema))).validate value =
          (context.fill (layer.wrap schema)).validate value ∧
      (context.fill (layer.wrap (other.wrap schema))).validate value =
          (context.fill (other.wrap (layer.wrap schema))).validate value := by
  refine ⟨fun value => ?_, schema.isOptional_stacked layers, schema.isNullable_stacked layers,
    fun others sameLayers context => (stacked_agrees schema sameLayers).fill context,
    fun context layer other value => ⟨?_, ?_⟩⟩
  · rw [validate_stacked]
    simp only [exists_passes_iff]
  · have once : (schema.stacked [layer, layer]).Agrees (schema.stacked [layer]) :=
      stacked_agrees schema fun _ => by simp
    exact once.fill context value
  · have swapped : (schema.stacked [layer, other]).Agrees (schema.stacked [other, layer]) :=
      stacked_agrees schema fun _ => by simp [or_comm]
    exact swapped.fill context value

private def noted (note : Schema) : Schema := .object [("id", .number []), ("note", note)]

private def noteContext : Context := .object [("id", .number [])] "note" .hole []

private theorem same_layers : ∀ layer, layer ∈ [Layer.nullable, .optional, .nullable] ↔
    layer ∈ [Layer.optional, .nullable] := by
  intro layer
  cases layer <;> decide

private def unnoted : Value := .object [("id", .number .zero)]

/-- A note below three layers may be absent just as below two. -/
theorem note_may_be_absent_below_layers :
    (∀ layer, layer ∈ [Layer.nullable, .optional, .nullable] ↔
      layer ∈ [Layer.optional, .nullable]) ∧
    (noted (.nullable (.optional (.nullable (.string []))))).validate unnoted = .ok unnoted := by
  have collapsed := (stack_collapses (.string []) [.optional, .nullable]).2.2.2.1
    [.nullable, .optional, .nullable] same_layers noteContext unnoted
  exact ⟨same_layers, collapsed.trans rfl⟩

end Schema

end ValueSchema
