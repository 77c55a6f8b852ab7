import ValueSchema.Json.Reading
import ValueSchema.Value

/-!
JSON decoded to values, which then hold neither dates nor files nor undefined.
-/

namespace ValueSchema

/-- How the members of an object become entries: in the order of their arrival or with
their names ascending. Either way the last of several members with one name counts. -/
inductive MemberOrder where
  | arrival
  | ascending
  deriving DecidableEq

def MemberOrder.arrange {α : Type} : MemberOrder → List (String × α) → List (String × α)
  | .arrival => Entries.ofList
  | .ascending => Entries.ofListAscending

mutual

def Json.toValue (order : MemberOrder) : Json → Value
  | .null => .null
  | .boolean truth => .boolean truth
  | .integer n => .number (.ofInt n)
  | .real n => .number n
  | .string text => .string text
  | .array items => .array (itemsOfJson order items)
  | .object members => .object (order.arrange (entriesOfJson order members))

def itemsOfJson (order : MemberOrder) : List Json → List Value
  | [] => []
  | item :: rest => item.toValue order :: itemsOfJson order rest

def entriesOfJson (order : MemberOrder) : List (String × Json) → List (String × Value)
  | [] => []
  | (name, member) :: rest => (name, member.toValue order) :: entriesOfJson order rest

end

@[simp] theorem itemsOfJson_eq_map (order : MemberOrder) (items : List Json) :
    itemsOfJson order items = items.map (Json.toValue order) := by
  induction items with
  | nil => rfl
  | cons item rest induction => rw [itemsOfJson, induction, List.map_cons]

@[simp] theorem entriesOfJson_eq_map (order : MemberOrder) (members : List (String × Json)) :
    entriesOfJson order members =
      members.map fun member => (member.1, member.2.toValue order) := by
  induction members with
  | nil => rfl
  | cons member rest induction => rw [entriesOfJson, induction, List.map_cons]

@[simp] theorem Json.toValue_array (order : MemberOrder) (items : List Json) :
    (Json.array items).toValue order = .array (items.map (toValue order)) := by
  rw [toValue, itemsOfJson_eq_map]

@[simp] theorem Json.toValue_object (order : MemberOrder) (members : List (String × Json)) :
    (Json.object members).toValue order =
      .object (order.arrange (members.map fun member => (member.1, member.2.toValue order))) := by
  rw [toValue, entriesOfJson_eq_map]

/-- The value of a JSON text, if it is one. -/
def Value.ofJsonText? (order : MemberOrder) (text : String) : Option Value :=
  (Json.parse? text).map (Json.toValue order)

end ValueSchema
