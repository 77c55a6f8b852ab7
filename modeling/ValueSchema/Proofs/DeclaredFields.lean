import ValueSchema.Proofs.ArrivedEntries
import ValueSchema.Proofs.Tags

/-! # Declared fields

The fields of an object follow from the list of its declarations, whether these were made all at
once or one after the other. Of several declarations of one name the first gives the field its
place and the last gives it its schema. The required names that are kept beside the fields are
always those of these fields.
-/

namespace ValueSchema

/-- Makes the declarations one after the other. -/
def FieldTable.declareAll (table : FieldTable) (declarations : List (String × Schema)) :
    FieldTable :=
  declarations.foldl (fun table declaration => table.declare declaration.1 declaration.2) table

namespace Schema

def declareAll? (schema : Schema) (declarations : List (String × Schema)) : Option Schema :=
  declarations.foldlM (fun schema declaration => schema.declare? declaration.1 declaration.2) schema

def lastDeclared? (declarations : List (String × Schema)) (name : String) : Option Schema :=
  Entries.find? declarations.reverse name

/-- Whether the name is declared, and in the end with a schema that is not optional. -/
def declaresRequired (declarations : List (String × Schema)) (name : String) : Bool :=
  (lastDeclared? declarations name).any fun schema => !schema.isOptional

end Schema

/-! ## One declaration after the other -/

namespace FieldTable

theorem declare_ofDeclarations (declarations : List (String × Schema)) (name : String)
    (schema : Schema) :
    (ofDeclarations declarations).declare name schema =
      ofDeclarations (declarations ++ [(name, schema)]) := by
  rw [ofDeclarations, ofDeclarations, Entries.ofList, Entries.ofList, List.foldl_append]
  rfl

theorem declareAll_ofDeclarations (before after : List (String × Schema)) :
    (ofDeclarations before).declareAll after = ofDeclarations (before ++ after) := by
  induction after generalizing before with
  | nil =>
      rw [List.append_nil]
      rfl
  | cons declaration rest induction =>
      rw [declareAll, List.foldl_cons, declare_ofDeclarations, ← declareAll, induction,
        List.append_assoc, List.singleton_append]

end FieldTable

namespace Schema

/-- A schema with one more declaration is that of the table with one more declaration. -/
theorem declareAll?_schema (table : FieldTable) (declarations : List (String × Schema)) :
    table.schema.declareAll? declarations = some (table.declareAll declarations).schema := by
  induction declarations generalizing table with
  | nil => rfl
  | cons declaration rest induction =>
      have first : table.schema.declare? declaration.1 declaration.2 =
          some (table.declare declaration.1 declaration.2).schema := rfl
      rw [declareAll?, List.foldlM_cons, first, Option.bind_eq_bind, Option.bind_some,
        ← declareAll?, induction, FieldTable.declareAll, FieldTable.declareAll, List.foldl_cons]

/-! ## Required names -/

theorem requiredNames_ofList (declarations : List (String × Schema)) :
    requiredNames (Entries.ofList declarations) =
      (Entries.names (Entries.ofList declarations)).filter (declaresRequired declarations) := by
  have distinct := Entries.nodup_names_ofList declarations
  rw [requiredNames, Entries.names, Entries.names, List.filter_map]
  refine congrArg (List.map Prod.fst) (List.filter_congr fun field member => ?_)
  have last : lastDeclared? declarations field.1 = some field.2 := by
    rw [lastDeclared?, ← Entries.find?_ofList]
    exact (Entries.find?_eq_some_iff distinct field.1 field.2).mpr member
  rw [Function.comp_apply, declaresRequired, last, Option.any_some]

theorem mem_requiredNames_ofList_iff (declarations : List (String × Schema)) (name : String) :
    name ∈ requiredNames (Entries.ofList declarations) ↔
      ∃ schema, Entries.find? (Entries.ofList declarations) name = some schema ∧
        schema.isOptional = false := by
  have distinct := Entries.nodup_names_ofList declarations
  constructor
  · intro required
    rcases List.mem_map.mp required with ⟨field, kept, rfl⟩
    rcases List.mem_filter.mp kept with ⟨member, notOptional⟩
    exact ⟨field.2, (Entries.find?_eq_some_iff distinct field.1 field.2).mpr member,
      by simpa using notOptional⟩
  · rintro ⟨schema, found, notOptional⟩
    exact (mem_requiredNames_iff distinct (Entries.mem_of_find? found)).mpr notOptional

/-- Declarations made all at once, one after the other from the start, and one after the other
from any point on, come to one and the same table, and to one and the same schema, which no value
can tell apart. There is one field for each name, in the order of the first declarations, with the
schema of the last one. The required names in the table are those of its fields: a name is
required exactly when its schema is not optional, and required names keep the order of the
fields. -/
theorem fields_follow_from_declarations (declarations : List (String × Schema)) :
    ∃ table : FieldTable,
      (FieldTable.ofDeclarations declarations = table ∧
        FieldTable.empty.declareAll declarations = table ∧
        ∀ count, (FieldTable.ofDeclarations (declarations.take count)).declareAll
          (declarations.drop count) = table) ∧
      (ofDeclarations declarations = .object table.fields ∧
        (object []).declareAll? declarations = some (.object table.fields) ∧
        ∀ count, (ofDeclarations (declarations.take count)).declareAll? (declarations.drop count) =
          some (.object table.fields)) ∧
      Entries.names table.fields = (Entries.names declarations).eraseDups ∧
      (∀ name, table.get? name = lastDeclared? declarations name) ∧
      table.required = requiredNames table.fields ∧
      table.required =
        (Entries.names declarations).eraseDups.filter (declaresRequired declarations) ∧
      (∀ name, table.isRequired name = true ↔ name ∈ table.required) ∧
      (∀ name, name ∈ table.required ↔
        ∃ schema, table.get? name = some schema ∧ schema.isOptional = false) ∧
      table.size = (Entries.names declarations).eraseDups.length := by
  have names := Entries.names_ofList declarations
  have fromStart : FieldTable.empty.declareAll declarations = .ofDeclarations declarations :=
    FieldTable.declareAll_ofDeclarations [] declarations
  have fromPrefix (count : Nat) : (FieldTable.ofDeclarations (declarations.take count)).declareAll
      (declarations.drop count) = .ofDeclarations declarations := by
    rw [FieldTable.declareAll_ofDeclarations, List.take_append_drop]
  refine ⟨.ofDeclarations declarations, ⟨rfl, fromStart, fromPrefix⟩, ⟨rfl, ?_, ?_⟩, names,
    Entries.find?_ofList declarations, rfl, ?_, FieldTable.isRequired_iff_mem _,
    mem_requiredNames_ofList_iff declarations, ?_⟩
  · have declared := declareAll?_schema .empty declarations
    rw [fromStart] at declared
    exact declared
  · intro count
    rw [ofDeclarations, declareAll?_schema, fromPrefix]
    rfl
  · rw [← names]
    exact requiredNames_ofList declarations
  · rw [← names, Entries.names, List.length_map]
    rfl

example :
    let declarations : List (String × Schema) :=
      [("name", .string []), ("age", .number []), ("name", .optional (.string [])),
        ("email", .string []), ("name", .nullable (.string []))]
    (FieldTable.ofDeclarations (declarations.take 4)).required = ["age", "email"] ∧
      (FieldTable.ofDeclarations declarations).required = ["name", "age", "email"] := by decide

end Schema

end ValueSchema
