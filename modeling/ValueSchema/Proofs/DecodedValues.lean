import ValueSchema.Json.ToValue
import ValueSchema.Proofs.ArrivedEntries
import ValueSchema.Proofs.ByteOrder
import ValueSchema.Proofs.ExactNumbers
import ValueSchema.Proofs.ReadJson
import ValueSchema.Proofs.ValueTree

/-! # Decoded values

A tree says which values may be decoded from it, but not in which order the entries of an object
come. Whichever order a decoder has, it decodes one of these values, so two decoders of a text
differ in nothing else.
-/

namespace ValueSchema

-- Powers are those of core, also beside a library with powers of its own.
attribute [local instance (2000)] instPowNat

/-! ## Arranged members -/

namespace MemberOrder

variable {α : Type}

theorem find?_arrange (order : MemberOrder) (pairs : List (String × α)) (name : String) :
    Entries.find? (order.arrange pairs) name = Entries.find? pairs.reverse name := by
  cases order with
  | arrival => exact Entries.find?_ofList pairs name
  | ascending => exact Entries.find?_ofListAscending pairs name

theorem nodup_names_arrange (order : MemberOrder) (pairs : List (String × α)) :
    (Entries.names (order.arrange pairs)).Nodup := by
  cases order with
  | arrival => exact Entries.nodup_names_ofList pairs
  | ascending => exact (Entries.ascending_ofListAscending pairs).nodup

end MemberOrder

namespace Json

/-! ## Sorted trees -/

mutual

/-- The tree in which each object has one member for each name, the last one of that name, with
the names ascending. -/
def sorted : Json → Json
  | .array items => .array (sortedItems items)
  | .object members => .object (Entries.ofListAscending (sortedMembers members))
  | json => json

def sortedItems : List Json → List Json
  | [] => []
  | item :: rest => item.sorted :: sortedItems rest

def sortedMembers : List (String × Json) → List (String × Json)
  | [] => []
  | (name, member) :: rest => (name, member.sorted) :: sortedMembers rest

end

@[simp] theorem sorted_array (items : List Json) :
    (Json.array items).sorted = .array (items.map sorted) := by
  rw [sorted]
  congr 1
  induction items with
  | nil => rfl
  | cons item rest induction => rw [sortedItems, induction, List.map_cons]

@[simp] theorem sorted_object (members : List (String × Json)) :
    (Json.object members).sorted =
      .object (Entries.ofListAscending
        (members.map fun member => (member.1, member.2.sorted))) := by
  rw [sorted]
  congr 2
  induction members with
  | nil => rfl
  | cons member rest induction => rw [sortedMembers, induction, List.map_cons]

/-- To have the names ascending, the whole tree may be sorted before it is decoded. -/
theorem toValue_sorted (json : Json) : json.sorted.toValue .arrival = json.toValue .ascending := by
  induction json with
  | array items induction =>
      rw [sorted_array, toValue_array, toValue_array, List.map_map]
      exact congrArg Value.array (List.map_congr_left induction)
  | object members induction =>
      have decoded : (members.map fun member => (member.1, member.2.sorted.toValue .arrival)) =
          members.map fun member => (member.1, member.2.toValue .ascending) :=
        List.map_congr_left fun member isMember => by rw [induction member isMember]
      rw [sorted_object, toValue_object, toValue_object, MemberOrder.arrange, MemberOrder.arrange,
        ← Entries.ofListAscending_map_value (toValue .arrival), List.map_map]
      have distinct := (Entries.ascending_ofListAscending (members.map fun member =>
        (member.1, member.2.sorted.toValue .arrival))).nodup
      exact congrArg Value.object ((Entries.ofList_of_nodup distinct).trans
        (congrArg Entries.ofListAscending decoded))
  | _ => rfl

/-! ## Denoted values -/

/-- The value is one that the tree stands for: an object has one entry for each name among the
members, with a value that the last member of that name stands for. -/
inductive Denotes : Json → Value → Prop
  | null : Denotes .null .null
  | boolean {truth} : Denotes (.boolean truth) (.boolean truth)
  | integer {n} : Denotes (.integer n) (.number (.ofInt n))
  | real {n} : Denotes (.real n) (.number n)
  | string {text} : Denotes (.string text) (.string text)
  | array {items values} (sameLength : items.length = values.length)
      (each : ∀ (position : Nat) (item : Json) (value : Value), items[position]? = some item →
        values[position]? = some value → Denotes item value) :
      Denotes (.array items) (.array values)
  | object {members : List (String × Json)} {entries : List (String × Value)}
      (distinct : (Entries.names entries).Nodup)
      (sameNames : ∀ name, name ∈ Entries.names entries ↔ name ∈ Entries.names members)
      (last : ∀ (name : String) (member : Json) (value : Value),
        Entries.find? members.reverse name = some member →
        Entries.find? entries name = some value → Denotes member value) :
      Denotes (.object members) (.object entries)

theorem denotes_toValue (order : MemberOrder) (json : Json) :
    json.Denotes (json.toValue order) := by
  induction json with
  | null => exact .null
  | boolean truth => exact .boolean
  | integer n => exact .integer
  | real n => exact .real
  | string text => exact .string
  | array items induction =>
      rw [toValue_array]
      refine .array (List.length_map _).symm fun position item value here decoded => ?_
      rw [List.getElem?_map, here, Option.map_some, Option.some.injEq] at decoded
      exact decoded ▸ induction item (List.mem_of_getElem? here)
  | object members induction =>
      rw [toValue_object]
      have stored (name : String) :
          Entries.find? (order.arrange (members.map fun member =>
            (member.1, member.2.toValue order))) name =
          (Entries.find? members.reverse name).map (toValue order) := by
        rw [order.find?_arrange, ← List.map_reverse, Entries.find?_map_value]
      refine .object (order.nodup_names_arrange _) (fun name => ?_)
        fun name member value found decoded => ?_
      · rw [Entries.mem_names_iff, stored, ne_eq, Option.map_eq_none_iff, ← ne_eq,
          Entries.find?_reverse_ne_none_iff]
      · rw [stored, found, Option.map_some, Option.some.injEq] at decoded
        exact decoded ▸ induction (name, member)
          (List.mem_reverse.mp (Entries.mem_of_find? found))

end Json

/-! ## Two decoders -/

namespace Value

/-- Of two entries the one further to the front has the smaller name, byte by byte. -/
def HasAscendingNames : Value → Prop
  | .object entries =>
      (Entries.names entries).Pairwise fun name other => utf8Bytes name < utf8Bytes other
  | _ => True

/-- A value of a kind that JSON has, and no number that it has not. -/
def isJson : Value → Bool
  | .undefined | .date _ | .file _ => false
  | .number n => n.isFinite
  | _ => true

end Value

namespace Json

variable {json : Json} {value other : Value}

theorem exists_item {items : List Json} {values : List Value}
    (sameLength : items.length = values.length) {position : Nat}
    (here : values[position]? = some value) : ∃ item, items[position]? = some item := by
  have inRange := (List.getElem?_eq_some_iff.mp here).1
  exact ⟨_, List.getElem?_eq_getElem (sameLength ▸ inRange)⟩

/-- Values of one tree differ in the order of entries only. -/
theorem Denotes.reordered (first : json.Denotes value) (second : json.Denotes other) :
    value.Reordered other := by
  induction first generalizing other with
  | @array items values sameLength each induction =>
      cases second with
      | @array _ others sameLength' each' =>
          refine .array (sameLength.symm.trans sameLength')
            fun position value other here there => ?_
          rcases exists_item sameLength here with ⟨item, source⟩
          exact induction position item value source here (each' position item other source there)
  | @object members entries distinct sameNames last induction =>
      cases second with
      | @object _ others distinct' sameNames' last' =>
          have alike (name : String) : name ∈ Entries.names entries ↔ name ∈ Entries.names others :=
            (sameNames name).trans (sameNames' name).symm
          refine .object ((List.perm_ext_iff_of_nodup distinct distinct').mpr alike)
            fun name value other here there => ?_
          rcases Entries.exists_last ((sameNames name).mp (Entries.mem_names_of_find? here)) with
            ⟨member, found⟩
          exact induction name member value found here (last' name member other found there)
  | _ => cases second; exact .same

/-- No value of a tree that can be read holds what JSON has not. -/
theorem Denotes.isJson (denotes : json.Denotes value) (inRange : json.InRange) :
    value.Everywhere (·.isJson) := by
  induction denotes with
  | @integer n =>
      cases inRange with
      | integer fits =>
          have bound : n.natAbs < 2 ^ (64 : Nat) := by
            rcases fits
            omega
          exact (Value.Everywhere.simple_iff rfl).mpr (Binary64.isFinite_ofInt bound)
  | real =>
      cases inRange with
      | real finite => exact (Value.Everywhere.simple_iff rfl).mpr finite
  | @array items values sameLength each induction =>
      cases inRange with
      | array inRange =>
          refine Value.Everywhere.array_iff.mpr ⟨rfl, fun value member => ?_⟩
          rcases List.getElem?_of_mem member with ⟨position, here⟩
          rcases exists_item sameLength here with ⟨item, source⟩
          exact induction position item value source here
            (inRange item (List.mem_of_getElem? source))
  | @object members entries distinct sameNames last induction =>
      cases inRange with
      | object inRange =>
          refine Value.Everywhere.object_iff.mpr ⟨rfl, fun entry member => ?_⟩
          have here := (Entries.find?_eq_some_iff distinct entry.1 entry.2).mpr member
          rcases Entries.exists_last ((sameNames _).mp (Entries.mem_names_of_find? here)) with
            ⟨tree, found⟩
          exact induction entry.1 tree entry.2 found here
            (inRange _ (List.mem_reverse.mp (Entries.mem_of_find? found)))
  | _ => exact (Value.Everywhere.simple_iff rfl).mpr rfl

theorem hasAscendingNames_toValue (json : Json) :
    (json.toValue .ascending).Everywhere Value.HasAscendingNames := by
  induction json with
  | array items induction =>
      rw [toValue_array]
      exact Value.Everywhere.array_iff.mpr ⟨trivial, List.forall_mem_map.mpr induction⟩
  | object members induction =>
      rw [toValue_object]
      refine Value.Everywhere.object_iff.mpr ⟨?_, fun entry member => ?_⟩
      · exact List.Pairwise.imp utf8Bytes_lt_of_lt (Entries.ascending_ofListAscending _)
      · rcases List.mem_map.mp (Entries.mem_of_mem_ofListAscending member) with
          ⟨source, isMember, rfl⟩
        exact induction source isMember
  | _ => exact (Value.Everywhere.simple_iff rfl).mpr trivial

end Json

/-- A text is decoded in both ways or in neither. What is decoded is in both cases a value that
the tree of the text stands for; only the order of entries differs, which is that of their names
in the one case. There it makes no difference whether the tree is sorted first, and then decoded
in the order in which its members come. -/
theorem Value.decoders_agree (text : String) :
    Option.Rel
      (fun arrived ascending =>
        (∃ json, Json.parse? text = some json ∧ json.Denotes arrived ∧ json.Denotes ascending ∧
          json.sorted.toValue .arrival = ascending) ∧
        arrived.Reordered ascending ∧ ascending.Everywhere HasAscendingNames ∧
        arrived.Everywhere (·.isJson) ∧ ascending.Everywhere (·.isJson))
      (ofJsonText? .arrival text) (ofJsonText? .ascending text) := by
  rw [ofJsonText?, ofJsonText?]
  cases read : Json.parse? text with
  | none => exact .none
  | some json =>
      have arrived := json.denotes_toValue .arrival
      have ascending := json.denotes_toValue .ascending
      have inRange := Json.inRange_of_parse? read
      exact .some ⟨⟨json, rfl, arrived, ascending, json.toValue_sorted⟩,
        arrived.reordered ascending, json.hasAscendingNames_toValue, arrived.isJson inRange, ascending.isJson inRange⟩

end ValueSchema
