import ValueSchema.Value

/-! # Values as trees

Induction over the nesting of values, demands on every part of a value, and the values
that are left when the leaves of a tree are replaced and some of its entries dropped.
-/

namespace ValueSchema

/-- Whether values of the kind hold others. -/
def Kind.isCompound : Kind → Bool
  | .array | .object => true
  | _ => false

namespace Value

/-- Induction over a value, in which the hypotheses about an array and an object speak of
each item and of the value of each entry. -/
@[induction_eliminator]
theorem nested {motive : Value → Prop}
    (undefined : motive .undefined)
    (null : motive .null)
    (boolean : ∀ truth, motive (.boolean truth))
    (number : ∀ n, motive (.number n))
    (string : ∀ text, motive (.string text))
    (date : ∀ instant, motive (.date instant))
    (file : ∀ upload, motive (.file upload))
    (array : ∀ items, (∀ item ∈ items, motive item) → motive (.array items))
    (object : ∀ entries, (∀ entry ∈ entries, motive entry.2) → motive (.object entries))
    (value : Value) : motive value := by
  refine @Value.rec motive (fun items => ∀ item ∈ items, motive item)
    (fun entries => ∀ entry ∈ entries, motive entry.2) (fun entry => motive entry.2)
    undefined null boolean number string date file array object ?_ ?_ ?_ ?_ ?_ value
  · exact List.forall_mem_nil _
  · intro first rest firstHolds restHolds
    exact List.forall_mem_cons.mpr ⟨firstHolds, restHolds⟩
  · exact List.forall_mem_nil _
  · intro first rest firstHolds restHolds
    exact List.forall_mem_cons.mpr ⟨firstHolds, restHolds⟩
  · intro _ _ holds
    exact holds

/-! ## Parts -/

mutual

/-- The value itself and everything inside it, at any depth. -/
def parts : Value → List Value
  | .array items => .array items :: itemParts items
  | .object entries => .object entries :: entryParts entries
  | value => [value]

def itemParts : List Value → List Value
  | [] => []
  | item :: rest => item.parts ++ itemParts rest

def entryParts : List (String × Value) → List Value
  | [] => []
  | (_, value) :: rest => value.parts ++ entryParts rest

end

/-- Every part of the value meets the demand. -/
def Everywhere (demand : Value → Prop) (value : Value) : Prop := ∀ part ∈ value.parts, demand part

instance (demand : Value → Prop) [DecidablePred demand] (value : Value) :
    Decidable (value.Everywhere demand) :=
  inferInstanceAs (Decidable (∀ part ∈ value.parts, demand part))

@[simp] theorem itemParts_eq_flatMap (items : List Value) :
    itemParts items = items.flatMap parts := by
  induction items with
  | nil => rfl
  | cons item rest induction => rw [itemParts, induction, List.flatMap_cons]

@[simp] theorem entryParts_eq_flatMap (entries : List (String × Value)) :
    entryParts entries = entries.flatMap fun entry => entry.2.parts := by
  induction entries with
  | nil => rfl
  | cons entry rest induction => rw [entryParts, induction, List.flatMap_cons]

theorem mem_parts_self (value : Value) : value ∈ value.parts := by
  cases value <;> exact List.mem_cons_self

namespace Everywhere

variable {demand : Value → Prop}

theorem here {value : Value} (everywhere : value.Everywhere demand) : demand value :=
  everywhere value value.mem_parts_self

theorem imp {other : Value → Prop} (implies : ∀ part, demand part → other part) {value : Value}
    (everywhere : value.Everywhere demand) : value.Everywhere other :=
  fun part member => implies part (everywhere part member)

theorem simple_iff {value : Value} (simple : value.kind.isCompound = false) :
    value.Everywhere demand ↔ demand value := by
  cases value with
  | array items => cases simple
  | object entries => cases simple
  | _ => exact List.forall_mem_singleton

@[simp] theorem array_iff {items : List Value} :
    (Value.array items).Everywhere demand ↔
      demand (.array items) ∧ ∀ item ∈ items, item.Everywhere demand := by
  rw [Everywhere, parts, itemParts_eq_flatMap, List.forall_mem_cons, List.forall_mem_flatMap]
  rfl

@[simp] theorem object_iff {entries : List (String × Value)} :
    (Value.object entries).Everywhere demand ↔
      demand (.object entries) ∧ ∀ entry ∈ entries, entry.2.Everywhere demand := by
  rw [Everywhere, parts, entryParts_eq_flatMap, List.forall_mem_cons, List.forall_mem_flatMap]
  rfl

end Everywhere

/-! ## Distinct names -/

def hasDistinctNames : Value → Bool
  | .object entries => (Entries.names entries).Nodup
  | _ => true

/-- No object inside the value has two entries of one name. -/
def WellFormed (value : Value) : Prop := value.Everywhere (·.hasDistinctNames)

instance (value : Value) : Decidable value.WellFormed :=
  inferInstanceAs (Decidable (value.Everywhere (·.hasDistinctNames)))

theorem WellFormed.item {items : List Value} (wellFormed : (Value.array items).WellFormed)
    {item : Value} (member : item ∈ items) : item.WellFormed :=
  (Everywhere.array_iff.mp wellFormed).2 item member

theorem WellFormed.entry {entries : List (String × Value)}
    (wellFormed : (Value.object entries).WellFormed) {entry : String × Value}
    (member : entry ∈ entries) : entry.2.WellFormed :=
  (Everywhere.object_iff.mp wellFormed).2 entry member

theorem WellFormed.distinct {entries : List (String × Value)}
    (wellFormed : (Value.object entries).WellFormed) : (Entries.names entries).Nodup :=
  of_decide_eq_true (Everywhere.object_iff.mp wellFormed).1

/-! ## Order of entries -/

/-- Two values differ in nothing but the order of entries, at any depth. -/
inductive Reordered : Value → Value → Prop
  | same {value} : Reordered value value
  | array {items others} (sameLength : items.length = others.length)
      (each : ∀ (position : Nat) (value other : Value), items[position]? = some value →
        others[position]? = some other → Reordered value other) :
      Reordered (.array items) (.array others)
  | object {entries others : List (String × Value)}
      (sameNames : (Entries.names entries).Perm (Entries.names others))
      (stored : ∀ (name : String) (value other : Value), Entries.find? entries name = some value →
        Entries.find? others name = some other → Reordered value other) :
      Reordered (.object entries) (.object others)

/-! ## Replacing leaves and dropping entries -/

mutual

/-- The tree with its leaves replaced. Entries stay, in order, if their values are kept;
whether they are is asked of the values before their leaves are replaced. -/
def rebuild (leaf : Value → Value) (keeps : Value → Bool) : Value → Value
  | .array items => .array (rebuildItems leaf keeps items)
  | .object entries => .object (rebuildEntries leaf keeps entries)
  | value => leaf value

def rebuildItems (leaf : Value → Value) (keeps : Value → Bool) : List Value → List Value
  | [] => []
  | item :: rest => item.rebuild leaf keeps :: rebuildItems leaf keeps rest

def rebuildEntries (leaf : Value → Value) (keeps : Value → Bool) :
    List (String × Value) → List (String × Value)
  | [] => []
  | (name, value) :: rest =>
      if keeps value then (name, value.rebuild leaf keeps) :: rebuildEntries leaf keeps rest
      else rebuildEntries leaf keeps rest

end

variable (leaf : Value → Value) (keeps : Value → Bool)

theorem rebuild_leaf {value : Value} (simple : value.kind.isCompound = false) :
    value.rebuild leaf keeps = leaf value := by
  cases value with
  | array items => cases simple
  | object entries => cases simple
  | _ => rfl

@[simp] theorem rebuild_array (items : List Value) :
    (Value.array items).rebuild leaf keeps = .array (items.map (rebuild leaf keeps)) := by
  rw [rebuild]
  congr 1
  induction items with
  | nil => rfl
  | cons item rest induction => rw [rebuildItems, induction, List.map_cons]

@[simp] theorem rebuild_object (entries : List (String × Value)) :
    (Value.object entries).rebuild leaf keeps =
      .object ((entries.filter fun entry => keeps entry.2).map fun entry =>
        (entry.1, entry.2.rebuild leaf keeps)) := by
  rw [rebuild]
  congr 1
  induction entries with
  | nil => rfl
  | cons entry rest induction =>
      obtain ⟨name, value⟩ := entry
      rw [rebuildEntries, induction, List.filter_cons]
      by_cases kept : keeps value = true
      · rw [if_pos kept, if_pos kept, List.map_cons]
      · rw [if_neg kept, if_neg kept]

/-- Where no entry is dropped, each keeps its name and its place. -/
theorem rebuild_object_keeping (entries : List (String × Value)) :
    (Value.object entries).rebuild leaf (fun _ => true) =
      .object (entries.map fun entry => (entry.1, entry.2.rebuild leaf fun _ => true)) := by
  rw [rebuild_object, List.filter_eq_self.mpr fun _ _ => rfl]

/-- A rewrite is the same as another one if both treat every part alike. -/
theorem rebuild_congr {leaf otherLeaf : Value → Value} {keeps otherKeeps : Value → Bool}
    {value : Value}
    (alike : value.Everywhere fun part =>
      leaf part = otherLeaf part ∧ keeps part = otherKeeps part) :
    value.rebuild leaf keeps = value.rebuild otherLeaf otherKeeps := by
  induction value with
  | array items induction =>
      have within := (Everywhere.array_iff.mp alike).2
      rw [rebuild_array, rebuild_array]
      exact congrArg Value.array (List.map_congr_left fun item member =>
        induction item member (within item member))
  | object entries induction =>
      have within := (Everywhere.object_iff.mp alike).2
      have sameKept : (entries.filter fun entry => keeps entry.2) =
          entries.filter fun entry => otherKeeps entry.2 :=
        List.filter_congr fun entry member => (within entry member).here.2
      rw [rebuild_object, rebuild_object, sameKept]
      refine congrArg Value.object (List.map_congr_left fun entry kept => ?_)
      have member := (List.mem_filter.mp kept).1
      rw [induction entry member (within entry member)]
  | _ => exact alike.here.1

@[simp] theorem rebuild_id (value : Value) : value.rebuild id (fun _ => true) = value := by
  induction value with
  | array items induction =>
      rw [rebuild_array]
      exact congrArg Value.array ((List.map_congr_left induction).trans (List.map_id' items))
  | object entries induction =>
      have sameEntries : ∀ entry ∈ entries,
          (entry.1, entry.2.rebuild id fun _ => true) = entry := fun entry member => by
        rw [induction entry member]
      rw [rebuild_object_keeping]
      exact congrArg Value.object
        ((List.map_congr_left sameEntries).trans (List.map_id' entries))
  | _ => rfl

/-- The value with its number changed, if it is one. -/
def mapNumber (change : Binary64 → Binary64) : Value → Value
  | .number n => .number (change n)
  | value => value

@[simp] theorem mapNumber_id : mapNumber id = id := by
  funext value
  cases value <;> rfl

/-- The value with its date changed, if it is one. -/
def mapDate (change : Instant → Instant) : Value → Value
  | .date instant => .date (change instant)
  | value => value

end Value

end ValueSchema
