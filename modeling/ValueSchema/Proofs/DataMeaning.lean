import ValueSchema.Proofs.DataInduction

/-! # What data means

The value that data stands for, without regard to failures: at every place where conversion
would fail there is some value, which no result ever shows.
-/

namespace ValueSchema.Data

/-- The name that a key means. -/
def meantName (key : Data) : String := key.toKey.toOption.getD ""

mutual

/-- The value that data means. What cannot be converted means undefined. -/
def meaning : Data → Value
  | .boolean truth => .boolean truth
  | .signed n => .number (.ofInt n.toInt)
  | .unsigned n => .number (.ofNat n.toNat)
  | .wideSigned n => .number (.ofInt n)
  | .wideUnsigned n => .number (.ofNat n)
  | .float n => .number n
  | .char c => .string (String.singleton c)
  | .string text | .unitVariant text => .string text
  | .bytes encoded => .array (encoded.map fun byte => .number (.ofNat byte.toNat))
  | .absent | .unit | .unitStruct _ => .null
  | .present inner => inner.meaning
  | .newtypeStruct name inner =>
      if name = dateStructName then (dateOfValue inner.meaning).toOption.getD .undefined
      else inner.meaning
  | .newtypeVariant variant inner => .object [(variant, inner.meaning)]
  | .tupleVariant variant items => .object [(variant, .array (itemsMeaning items))]
  | .structVariant variant fields => .object [(variant, .ofPairs (fieldsMeaning fields))]
  | .sequence items => .array (itemsMeaning items)
  | .map entries => .ofPairs (entriesMeaning entries)
  | .mapCalls calls => .ofPairs (callsMeaning none calls)
  | .struct name fields =>
      if name = fileStructName then
        (fileOfEntries (Entries.ofList (fieldsMeaning fields))).toOption.getD .undefined
      else .ofPairs (fieldsMeaning fields)
  | .failure _ => .undefined

def itemsMeaning : List Data → List Value
  | [] => []
  | item :: rest => item.meaning :: itemsMeaning rest

def fieldsMeaning : List (String × Data) → List (String × Value)
  | [] => []
  | (name, field) :: rest => (name, field.meaning) :: fieldsMeaning rest

def entriesMeaning : List (Data × Data) → List (String × Value)
  | [] => []
  | (key, entry) :: rest => (key.meantName, entry.meaning) :: entriesMeaning rest

/-- Only a value that a key waits for makes an entry. -/
def callsMeaning : Option String → List (MapPart × Data) → List (String × Value)
  | _, [] => []
  | _, (.key, key) :: rest => callsMeaning (some key.meantName) rest
  | none, (.value, _) :: rest => callsMeaning none rest
  | some name, (.value, entry) :: rest => (name, entry.meaning) :: callsMeaning none rest

end

@[simp] theorem itemsMeaning_eq_map (items : List Data) :
    itemsMeaning items = items.map meaning := by
  induction items with
  | nil => rfl
  | cons item rest induction => rw [itemsMeaning, induction, List.map_cons]

@[simp] theorem fieldsMeaning_eq_map (fields : List (String × Data)) :
    fieldsMeaning fields = fields.map fun field => (field.1, field.2.meaning) := by
  induction fields with
  | nil => rfl
  | cons field rest induction => rw [fieldsMeaning, induction, List.map_cons]

@[simp] theorem entriesMeaning_eq_map (entries : List (Data × Data)) :
    entriesMeaning entries = entries.map fun entry => (entry.1.meantName, entry.2.meaning) := by
  induction entries with
  | nil => rfl
  | cons entry rest induction => rw [entriesMeaning, induction, List.map_cons]

end ValueSchema.Data
