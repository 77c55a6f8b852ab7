import ValueSchema.Json
import ValueSchema.Validation

/-!
Values, errors and outcomes as JSON.
-/

namespace ValueSchema

/-- An optional text, null when there is none. -/
def Json.ofString? : Option String → Json
  | some text => .string text
  | none => .null

def File.toJson (file : File) : Json :=
  .object
    [("name", .ofString? file.name), ("mime", .string file.mime),
     ("size", .integer file.size.toNat)]

/-- Whole numbers below `2 ^ 53` are integers. -/
def Binary64.toJson (n : Binary64) : Json :=
  match n.toSmallInt? with
  | some whole => .integer whole
  | none => .real n

mutual

/-- Undefined is null, but entries that are undefined are left out. -/
def Value.toJson : Value → Json
  | .undefined | .null => .null
  | .boolean truth => .boolean truth
  | .number n => n.toJson
  | .string text => .string text
  | .date instant => .string (Rfc3339.write instant)
  | .file upload => upload.toJson
  | .array items => .array (itemsToJson items)
  | .object entries => .object (entriesToJson entries)

def itemsToJson : List Value → List Json
  | [] => []
  | item :: rest => item.toJson :: itemsToJson rest

def entriesToJson : List (String × Value) → List (String × Json)
  | [] => []
  | (name, value) :: rest =>
      if value.isUndefined then entriesToJson rest
      else (name, value.toJson) :: entriesToJson rest

end

@[simp] theorem itemsToJson_eq_map (items : List Value) :
    itemsToJson items = items.map Value.toJson := by
  induction items with
  | nil => rfl
  | cons item rest induction => rw [itemsToJson, induction, List.map_cons]

@[simp] theorem entriesToJson_eq_map (entries : List (String × Value)) :
    entriesToJson entries =
      (entries.filter fun entry => !entry.2.isUndefined).map fun entry =>
        (entry.1, entry.2.toJson) := by
  induction entries with
  | nil => rfl
  | cons entry rest induction =>
      obtain ⟨name, value⟩ := entry
      rw [entriesToJson, induction, List.filter_cons]
      cases value.isUndefined <;> rfl

def Error.toJson (error : Error) : Json :=
  .object
    [("kind", .string error.kindName), ("message", .string error.message),
     ("path", .ofString? (error.path.map Path.dotted))]

/-- A valid value stands for itself, a failure says that it is one. -/
def Outcome.toJson : Outcome → Json
  | .valid value => value.toJson
  | .invalid error => .object [("success", .boolean false), ("error", error.toJson)]

end ValueSchema
