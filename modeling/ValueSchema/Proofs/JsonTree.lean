import ValueSchema.Json

/-! # JSON as trees

Induction over the nesting of trees, and the tree that a text spells: numbers that are not
finite are written as null, so they are lost in it.
-/

namespace ValueSchema.Json

/-- Induction over a tree, in which the hypotheses about an array and an object speak of each
item and of the tree of each member. -/
@[induction_eliminator]
theorem nested {motive : Json → Prop}
    (null : motive .null)
    (boolean : ∀ truth, motive (.boolean truth))
    (integer : ∀ n, motive (.integer n))
    (real : ∀ n, motive (.real n))
    (string : ∀ text, motive (.string text))
    (array : ∀ items, (∀ item ∈ items, motive item) → motive (.array items))
    (object : ∀ members, (∀ member ∈ members, motive member.2) → motive (.object members))
    (json : Json) : motive json := by
  refine @Json.rec motive (fun items => ∀ item ∈ items, motive item)
    (fun members => ∀ member ∈ members, motive member.2) (fun member => motive member.2)
    null boolean integer real string array object ?_ ?_ ?_ ?_ ?_ json
  · exact List.forall_mem_nil _
  · intro first rest firstHolds restHolds
    exact List.forall_mem_cons.mpr ⟨firstHolds, restHolds⟩
  · exact List.forall_mem_nil _
  · intro first rest firstHolds restHolds
    exact List.forall_mem_cons.mpr ⟨firstHolds, restHolds⟩
  · intro _ _ holds
    exact holds

/-! ## Texts with several items -/

theorem itemsChars_cons_cons (item next : Json) (rest : List Json) :
    itemsChars (item :: next :: rest) = item.chars ++ ',' :: itemsChars (next :: rest) := rfl

theorem membersChars_cons_cons (member next : String × Json) (rest : List (String × Json)) :
    membersChars (member :: next :: rest) =
      stringChars member.1 ++ ':' :: member.2.chars ++ ',' :: membersChars (next :: rest) := rfl

theorem itemsChars_map {change : Json → Json} {items : List Json}
    (same : ∀ item ∈ items, (change item).chars = item.chars) :
    itemsChars (items.map change) = itemsChars items := by
  induction items with
  | nil => rfl
  | cons item others induction =>
      rw [List.forall_mem_cons] at same
      cases others with
      | nil => exact same.1
      | cons next others =>
          have later := induction same.2
          rw [List.map_cons] at later
          rw [List.map_cons, List.map_cons, itemsChars_cons_cons, itemsChars_cons_cons, same.1,
            later]

theorem membersChars_map {change : Json → Json} {members : List (String × Json)}
    (same : ∀ member ∈ members, (change member.2).chars = member.2.chars) :
    membersChars (members.map fun member => (member.1, change member.2)) =
      membersChars members := by
  induction members with
  | nil => rfl
  | cons member others induction =>
      rw [List.forall_mem_cons] at same
      cases others with
      | nil =>
          rw [List.map_cons, List.map_nil, membersChars, same.1]
          rfl
      | cons next others =>
          have later := induction same.2
          rw [List.map_cons] at later
          rw [List.map_cons, List.map_cons, membersChars_cons_cons, membersChars_cons_cons,
            same.1, later]

/-! ## Spelled trees -/

mutual

/-- The tree that the text of a tree spells. -/
def spelled : Json → Json
  | .real n => if n.isFinite then .real n else .null
  | .array items => .array (spelledItems items)
  | .object members => .object (spelledMembers members)
  | json => json

def spelledItems : List Json → List Json
  | [] => []
  | item :: rest => item.spelled :: spelledItems rest

def spelledMembers : List (String × Json) → List (String × Json)
  | [] => []
  | (name, member) :: rest => (name, member.spelled) :: spelledMembers rest

end

@[simp] theorem spelled_array (items : List Json) :
    (Json.array items).spelled = .array (items.map spelled) := by
  rw [spelled]
  congr 1
  induction items with
  | nil => rfl
  | cons item rest induction => rw [spelledItems, induction, List.map_cons]

@[simp] theorem spelled_object (members : List (String × Json)) :
    (Json.object members).spelled =
      .object (members.map fun member => (member.1, member.2.spelled)) := by
  rw [spelled]
  congr 1
  induction members with
  | nil => rfl
  | cons member rest induction => rw [spelledMembers, induction, List.map_cons]

theorem chars_spelled (json : Json) : json.spelled.chars = json.chars := by
  induction json with
  | real n =>
      cases n with
      | finite negative magnitude => rfl
      | _ => rfl
  | array items induction =>
      rw [spelled_array, chars, chars, itemsChars_map induction]
  | object members induction =>
      rw [spelled_object, chars, chars, membersChars_map induction]
  | _ => rfl

end ValueSchema.Json
