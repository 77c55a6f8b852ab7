import ValueSchema.Proofs.ArrivedEntries
import ValueSchema.Proofs.ValueTree

/-! # Equal values

Equality of values is symmetric and transitive. A value equals itself unless there is a NaN inside
it, and then it also equals every value that differs from it in the order of entries only.
-/

namespace ValueSchema

/-! ## Numbers -/

namespace Binary64

/-- How much a number is: an infinity of some sign, or so many least units. A NaN is nothing. -/
def quantity? : Binary64 → Option (Bool ⊕ Int)
  | .nan => none
  | .infinite negative => some (.inl negative)
  | .finite negative magnitude => some (.inr (signedUnits negative magnitude))

theorem equal_iff {left right : Binary64} :
    left.equal right = true ↔
      ∃ quantity, left.quantity? = some quantity ∧ right.quantity? = some quantity := by
  cases left with
  | nan => simp [equal, atMost, quantity?]
  | infinite negative =>
      cases right with
      | nan => simp [equal, atMost, quantity?]
      | infinite negative' => cases negative <;> cases negative' <;> simp [equal, atMost, quantity?]
      | finite negative' magnitude => cases negative <;> simp [equal, atMost, quantity?]
  | finite negative magnitude =>
      cases right with
      | nan => simp [equal, atMost, quantity?]
      | infinite negative' => cases negative' <;> simp [equal, atMost, quantity?]
      | finite negative' magnitude' =>
          simp [equal, atMost, quantity?]
          omega

theorem equal_symm {left right : Binary64} (equal : left.equal right = true) :
    right.equal left = true := by
  rcases equal_iff.mp equal with ⟨quantity, first, second⟩
  exact equal_iff.mpr ⟨quantity, second, first⟩

theorem equal_trans {first second third : Binary64} (equal : first.equal second = true)
    (next : second.equal third = true) : first.equal third = true := by
  rcases equal_iff.mp equal with ⟨quantity, here, between⟩
  rcases equal_iff.mp next with ⟨other, same, there⟩
  rw [between] at same
  cases same
  exact equal_iff.mpr ⟨quantity, here, there⟩

theorem equal_self_iff {n : Binary64} : n.equal n = true ↔ n.isNaN = false := by
  rw [equal_iff]
  cases n <;> simp [quantity?, isNaN]

end Binary64

namespace Value

def isNaN : Value → Bool
  | .number n => n.isNaN
  | _ => false

/-! ## What values are equal to -/

section

variable {value other : Value} {n : Binary64} {items : List Value}
  {entries : List (String × Value)}

theorem equal_iff_eq (simple : value.kind.isCompound = false) (noNumber : value.number? = none) :
    value.equal other = true ↔ value = other := by
  cases value with
  | array items => cases simple
  | object entries => cases simple
  | number n => cases noNumber
  | _ => cases other <;> simp [equal]

theorem equal_number_iff :
    (number n).equal other = true ↔ ∃ m, other = number m ∧ n.equal m = true := by
  cases other <;> simp [equal]

theorem equalItems_iff {others : List Value} :
    equalItems items others = true ↔
      items.length = others.length ∧ ∀ (position : Nat) (value other : Value),
        items[position]? = some value → others[position]? = some other →
          value.equal other = true := by
  induction items generalizing others with
  | nil => cases others <;> simp [equalItems]
  | cons item rest induction =>
      cases others with
      | nil => simp [equalItems]
      | cons first others =>
          rw [equalItems, Bool.and_eq_true, induction]
          constructor
          · intro equal
            rcases equal with ⟨firstEqual, sameLength, each⟩
            constructor
            · exact congrArg (· + 1) sameLength
            · intro position value other here there
              cases position with
              | zero =>
                  cases here
                  cases there
                  exact firstEqual
              | succ position => exact each position value other here there
          · intro equal
            rcases equal with ⟨sameLength, each⟩
            constructor
            · exact each 0 item first rfl rfl
            constructor
            · exact Nat.succ.inj sameLength
            · intro position
              exact each (position + 1)

theorem entriesWithin_iff {others : List (String × Value)} :
    entriesWithin entries others = true ↔
      ∀ entry ∈ entries, ∃ other, Entries.find? others entry.1 = some other ∧
        entry.2.equal other = true := by
  induction entries with
  | nil => simp [entriesWithin]
  | cons entry rest induction =>
      obtain ⟨name, value⟩ := entry
      rw [entriesWithin, Bool.and_eq_true, induction, List.forall_mem_cons]
      cases Entries.find? others name <;> simp

theorem equal_array_iff {others : List Value} :
    (array items).equal (array others) = true ↔
      items.length = others.length ∧ ∀ (position : Nat) (value other : Value),
        items[position]? = some value → others[position]? = some other →
          value.equal other = true := by
  rw [equal, equalItems_iff]

theorem equal_object_iff {others : List (String × Value)} :
    (object entries).equal (object others) = true ↔
      entries.length = others.length ∧
        ∀ entry ∈ entries, ∃ found, Entries.find? others entry.1 = some found ∧
          entry.2.equal found = true := by
  rw [equal, Bool.and_eq_true, beq_iff_eq, entriesWithin_iff]

theorem exists_items_of_equal (equal : (array items).equal other = true) :
    ∃ others, other = array others := by
  cases other with
  | array others => exact ⟨others, rfl⟩
  | _ => cases equal

theorem exists_entries_of_equal (equal : (object entries).equal other = true) :
    ∃ others, other = object others := by
  cases other with
  | object others => exact ⟨others, rfl⟩
  | _ => cases equal

end

/-! ## Names on both sides -/

section

variable {entries others : List (String × Value)}

/-- Entries that are as many as others and all found there have the same names: a further name
would be one too many. -/
theorem mem_names_iff_of_within (distinct : (Entries.names entries).Nodup)
    (sameLength : entries.length = others.length)
    (within : Entries.names entries ⊆ Entries.names others) (name : String) :
    name ∈ Entries.names entries ↔ name ∈ Entries.names others := by
  constructor
  · exact fun member => within member
  · intro member
    apply Classical.byContradiction
    intro absent
    have more : (name :: Entries.names entries).Nodup := List.nodup_cons.mpr ⟨absent, distinct⟩
    have bound := more.length_le_of_subset (List.cons_subset.mpr ⟨member, within⟩)
    rw [List.length_cons, Entries.names, Entries.names, List.length_map, List.length_map] at bound
    omega

theorem WellFormed.find?_eq {entry : String × Value} (wellFormed : (object entries).WellFormed)
    (member : entry ∈ entries) : Entries.find? entries entry.1 = some entry.2 :=
  (Entries.find?_eq_some_iff wellFormed.distinct entry.1 entry.2).mpr member

theorem mem_names_iff_of_equal (distinct : (Entries.names entries).Nodup)
    (equal : (object entries).equal (object others) = true) (name : String) :
    name ∈ Entries.names entries ↔ name ∈ Entries.names others := by
  rcases equal_object_iff.mp equal with ⟨sameLength, each⟩
  apply mem_names_iff_of_within distinct sameLength
  intro name member
  rcases List.mem_map.mp member with ⟨entry, isEntry, rfl⟩
  rcases each entry isEntry with ⟨found, stored, _⟩
  exact Entries.mem_names_of_find? stored

end

/-! ## Equality both ways and on -/

theorem equal_symm {left right : Value} (leftWellFormed : left.WellFormed)
    (rightWellFormed : right.WellFormed) (equal : left.equal right = true) :
    right.equal left = true := by
  induction left generalizing right with
  | number n =>
      rcases equal_number_iff.mp equal with ⟨m, rfl, same⟩
      exact equal_number_iff.mpr ⟨n, rfl, Binary64.equal_symm same⟩
  | array items induction =>
      rcases exists_items_of_equal equal with ⟨others, rfl⟩
      rcases equal_array_iff.mp equal with ⟨sameLength, each⟩
      apply equal_array_iff.mpr
      constructor
      · exact sameLength.symm
      · intro position other value there here
        have isItem := List.mem_of_getElem? here
        have isOther := List.mem_of_getElem? there
        exact induction value isItem (leftWellFormed.item isItem) (rightWellFormed.item isOther)
          (each position value other here there)
  | object entries induction =>
      rcases exists_entries_of_equal equal with ⟨others, rfl⟩
      rcases equal_object_iff.mp equal with ⟨sameLength, each⟩
      apply equal_object_iff.mpr
      constructor
      · exact sameLength.symm
      · intro other isOther
        have named : other.1 ∈ Entries.names entries :=
          (mem_names_iff_of_equal leftWellFormed.distinct equal other.1).mpr
            (List.mem_map_of_mem isOther)
        rcases List.mem_map.mp named with ⟨entry, isEntry, sameName⟩
        rcases each entry isEntry with ⟨found, stored, sameValue⟩
        have here := leftWellFormed.find?_eq isEntry
        have there := rightWellFormed.find?_eq isOther
        -- The entry that the other one was compared with is the other one itself.
        rw [sameName, there] at stored
        cases stored
        rw [sameName] at here
        exact ⟨entry.2, here, induction entry isEntry (leftWellFormed.entry isEntry)
          (rightWellFormed.entry isOther) sameValue⟩
  | _ =>
      rw [equal_iff_eq rfl rfl] at equal
      subst equal
      exact (equal_iff_eq rfl rfl).mpr rfl

theorem equal_trans {first second third : Value} (equal : first.equal second = true)
    (next : second.equal third = true) : first.equal third = true := by
  induction first generalizing second third with
  | number n =>
      rcases equal_number_iff.mp equal with ⟨m, rfl, same⟩
      rcases equal_number_iff.mp next with ⟨k, rfl, sameNext⟩
      exact equal_number_iff.mpr ⟨k, rfl, Binary64.equal_trans same sameNext⟩
  | array items induction =>
      rcases exists_items_of_equal equal with ⟨between, rfl⟩
      rcases exists_items_of_equal next with ⟨others, rfl⟩
      rcases equal_array_iff.mp equal with ⟨sameLength, each⟩
      rcases equal_array_iff.mp next with ⟨sameLengthNext, eachNext⟩
      apply equal_array_iff.mpr
      constructor
      · exact sameLength.trans sameLengthNext
      · intro position value other here there
        have inRange := (List.getElem?_eq_some_iff.mp here).1
        rw [sameLength] at inRange
        have middle := List.getElem?_eq_getElem inRange
        exact induction value (List.mem_of_getElem? here) (each position value _ here middle)
          (eachNext position _ other middle there)
  | object entries induction =>
      rcases exists_entries_of_equal equal with ⟨between, rfl⟩
      rcases exists_entries_of_equal next with ⟨others, rfl⟩
      rcases equal_object_iff.mp equal with ⟨sameLength, each⟩
      rcases equal_object_iff.mp next with ⟨sameLengthNext, eachNext⟩
      apply equal_object_iff.mpr
      constructor
      · exact sameLength.trans sameLengthNext
      · intro entry isEntry
        rcases each entry isEntry with ⟨middle, stored, same⟩
        rcases eachNext (entry.1, middle) (Entries.mem_of_find? stored) with
          ⟨found, storedNext, sameNext⟩
        exact ⟨found, storedNext, induction entry isEntry same sameNext⟩
  | _ =>
      rw [equal_iff_eq rfl rfl] at equal
      subst equal
      exact next

/-! ## What equals itself -/

theorem equal_self_iff {value : Value} (wellFormed : value.WellFormed) :
    value.equal value = true ↔ value.Everywhere (·.isNaN = false) := by
  induction value with
  | number n =>
      rw [Everywhere.simple_iff rfl, equal_number_iff]
      constructor
      · intro equal
        rcases equal with ⟨_, ⟨⟩, same⟩
        exact Binary64.equal_self_iff.mp same
      · intro noNaN
        exact ⟨n, rfl, Binary64.equal_self_iff.mpr noNaN⟩
  | array items induction =>
      rw [Everywhere.array_iff, equal_array_iff]
      constructor
      · intro equal
        constructor
        · rfl
        · intro item member
          rcases List.getElem?_of_mem member with ⟨position, here⟩
          exact (induction item member (wellFormed.item member)).mp
            (equal.2 position item item here here)
      · intro noNaN
        constructor
        · rfl
        · intro position item other here there
          rw [here] at there
          cases there
          have member := List.mem_of_getElem? here
          exact (induction item member (wellFormed.item member)).mpr (noNaN.2 item member)
  | object entries induction =>
      rw [Everywhere.object_iff, equal_object_iff]
      constructor
      · intro equal
        constructor
        · rfl
        · intro entry member
          rcases equal.2 entry member with ⟨found, sameName, same⟩
          rw [wellFormed.find?_eq member] at sameName
          cases sameName
          exact (induction entry member (wellFormed.entry member)).mp same
      · intro noNaN
        constructor
        · rfl
        · intro entry member
          exact ⟨entry.2, wellFormed.find?_eq member,
            (induction entry member (wellFormed.entry member)).mpr (noNaN.2 entry member)⟩
  | _ => exact iff_of_true ((equal_iff_eq rfl rfl).mpr rfl) ((Everywhere.simple_iff rfl).mpr rfl)

theorem Reordered.of_perm {entries others : List (String × Value)}
    (distinct : (Entries.names entries).Nodup) (permuted : entries.Perm others) :
    (Value.object entries).Reordered (.object others) := by
  have sameNames : (Entries.names entries).Perm (Entries.names others) := permuted.map Prod.fst
  apply Reordered.object sameNames
  intro name value other here there
  have member := (Entries.find?_eq_some_iff distinct name value).mp here
  have found := (Entries.find?_eq_some_iff (sameNames.nodup_iff.mp distinct) name value).mpr
    (permuted.mem_iff.mp member)
  rw [there] at found
  cases found
  exact .same

/-- The order of entries makes no difference, at any depth. -/
theorem Reordered.equal {value other : Value} (reordered : value.Reordered other)
    (wellFormed : value.WellFormed) (noNaN : value.Everywhere (·.isNaN = false)) :
    value.equal other = true := by
  induction reordered with
  | same => exact (equal_self_iff wellFormed).mpr noNaN
  | @array items others sameLength each induction =>
      have within := (Everywhere.array_iff.mp noNaN).2
      apply equal_array_iff.mpr
      constructor
      · exact sameLength
      · intro position item other here there
        have member := List.mem_of_getElem? here
        exact induction position item other here there (wellFormed.item member)
          (within item member)
  | @object entries others sameNames stored induction =>
      have within := (Everywhere.object_iff.mp noNaN).2
      have sameLength := sameNames.length_eq
      rw [Entries.names, Entries.names, List.length_map, List.length_map] at sameLength
      apply equal_object_iff.mpr
      constructor
      · exact sameLength
      · intro entry member
        have here := wellFormed.find?_eq member
        have named := sameNames.mem_iff.mp (List.mem_map_of_mem member)
        rcases Option.ne_none_iff_exists'.mp (Entries.mem_names_iff.mp named) with ⟨found, there⟩
        exact ⟨found, there, induction entry.1 entry.2 found here there
          (wellFormed.entry member) (within entry member)⟩

/-! ## A partial equivalence -/

/-- Equality is symmetric and transitive, and a value equals itself exactly when no number inside
it is a NaN. Then it also equals every value with its entries in another order; and equal objects
have the same names. -/
theorem equality_is_partial_equivalence :
    (∀ left right : Value, left.WellFormed → right.WellFormed → left.equal right = true →
      right.equal left = true) ∧
    (∀ first second third : Value, first.equal second = true → second.equal third = true →
      first.equal third = true) ∧
    (∀ value : Value, value.WellFormed →
      (value.equal value = true ↔ value.Everywhere (·.isNaN = false))) ∧
    (∀ value other : Value, value.WellFormed → value.Everywhere (·.isNaN = false) →
      value.Reordered other → value.equal other = true) ∧
    ∀ entries others : List (String × Value), (object entries).WellFormed →
      (object entries).equal (object others) = true →
        ∀ name, name ∈ Entries.names entries ↔ name ∈ Entries.names others := by
  constructor
  · intro left right leftWellFormed rightWellFormed
    exact equal_symm leftWellFormed rightWellFormed
  constructor
  · intro first second third
    exact equal_trans
  constructor
  · intro value wellFormed
    exact equal_self_iff wellFormed
  constructor
  · intro value other wellFormed noNaN reordered
    exact reordered.equal wellFormed noNaN
  · intro entries others wellFormed
    exact mem_names_iff_of_equal wellFormed.distinct

private def balances : List (String × Value) :=
  [("held", .number .zero), ("owed", .array [.object [("due", .null)]])]

private def balancesAgain : List (String × Value) :=
  [("owed", .array [.object [("due", .null)]]), ("held", .number (.finite true .zero))]

/-- The two zeros are equal, and which of the entries comes first is of no concern. -/
theorem balances_equal_both_ways :
    (object balances).WellFormed ∧ (object balancesAgain).WellFormed ∧
    (object balances).equal (object balancesAgain) = true ∧
    (object balancesAgain).equal (object balances) = true ∧
    (object balances).equal (object balances) = true ∧
    (object balances).Everywhere (·.isNaN = false) ∧
    (object balances).Reordered (object balances.reverse) ∧
    (object balances).equal (object balances.reverse) = true ∧
    ("owed" ∈ Entries.names balances ↔ "owed" ∈ Entries.names balancesAgain) := by
  rcases equality_is_partial_equivalence with ⟨symmetric, transitive, reflexive, reordered, names⟩
  have wellFormed : (object balances).WellFormed := by decide
  have wellFormedAgain : (object balancesAgain).WellFormed := by decide
  have equal : (object balances).equal (object balancesAgain) = true := by rfl
  have back := symmetric _ _ wellFormed wellFormedAgain equal
  have self := transitive _ _ _ equal back
  have noNaN := (reflexive _ wellFormed).mp self
  have turned : (object balances).Reordered (object balances.reverse) :=
    .of_perm wellFormed.distinct balances.reverse_perm.symm
  exact ⟨wellFormed, wellFormedAgain, equal, back, self, noNaN, turned,
    reordered _ _ wellFormed noNaN turned, names _ _ wellFormed equal "owed"⟩

end Value

end ValueSchema
