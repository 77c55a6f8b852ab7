import ValueSchema.Data
import ValueSchema.Value

/-!
Values, files and dates handed over as data.
-/

namespace ValueSchema

def File.toData (file : File) : Data :=
  .struct fileStructName
    [("name", match file.name with
        | some name => .present (.string name)
        | none => .absent),
     ("mime", .string file.mime),
     ("size", .unsigned file.size)]

def Instant.toData (instant : Instant) : Data :=
  .newtypeStruct dateStructName (.string (Rfc3339.write instant))

/-- Whole numbers below `2 ^ 53` are handed over as integers. -/
def Binary64.toData (n : Binary64) : Data :=
  match n.toSmallInt? with
  | some whole => .signed (Int64.ofInt whole)
  | none => .float n

mutual

/-- Undefined and null are both the unit, and entries that are undefined are left out. -/
def Value.toData : Value → Data
  | .undefined | .null => .unit
  | .boolean truth => .boolean truth
  | .number n => n.toData
  | .string text => .string text
  | .date instant => instant.toData
  | .file upload => upload.toData
  | .array items => .sequence (itemsToData items)
  | .object entries => .map (entriesToData entries)

def itemsToData : List Value → List Data
  | [] => []
  | item :: rest => item.toData :: itemsToData rest

def entriesToData : List (String × Value) → List (Data × Data)
  | [] => []
  | (name, value) :: rest =>
      if value.isUndefined then entriesToData rest
      else (.string name, value.toData) :: entriesToData rest

end

@[simp] theorem itemsToData_eq_map (items : List Value) :
    itemsToData items = items.map Value.toData := by
  induction items with
  | nil => rfl
  | cons item rest induction => rw [itemsToData, induction, List.map_cons]

@[simp] theorem entriesToData_eq_map (entries : List (String × Value)) :
    entriesToData entries =
      (entries.filter fun entry => !entry.2.isUndefined).map fun entry =>
        (.string entry.1, entry.2.toData) := by
  induction entries with
  | nil => rfl
  | cons entry rest induction =>
      obtain ⟨name, value⟩ := entry
      rw [entriesToData, induction, List.filter_cons]
      cases value.isUndefined <;> rfl

end ValueSchema
