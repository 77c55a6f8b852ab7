/-!
Named entries in the order in which their names first arrived. A name that arrives again
keeps its place and takes the new value.
-/

namespace ValueSchema.Entries

variable {α : Type}

def find? : List (String × α) → String → Option α
  | [], _ => none
  | (present, value) :: rest, name => if present = name then some value else find? rest name

def insert : List (String × α) → String → α → List (String × α)
  | [], name, value => [(name, value)]
  | (present, old) :: rest, name, value =>
      if present = name then (present, value) :: rest
      else (present, old) :: insert rest name value

/-- The entries left after all pairs have arrived in order. -/
def ofList (pairs : List (String × α)) : List (String × α) :=
  pairs.foldl (fun entries pair => insert entries pair.1 pair.2) []

def names (entries : List (String × α)) : List String := entries.map Prod.fst

/-! ## Order of names

Strings are ordered by code points, which is also the order of their bytes in UTF-8. -/

/-- Puts a new name before the first greater one; a present name takes the new value. -/
def insertAscending : List (String × α) → String → α → List (String × α)
  | [], name, value => [(name, value)]
  | (present, old) :: rest, name, value =>
      if present = name then (present, value) :: rest
      else if name < present then (name, value) :: (present, old) :: rest
      else (present, old) :: insertAscending rest name value

/-- The entries left after all pairs have arrived, with their names ascending. -/
def ofListAscending (pairs : List (String × α)) : List (String × α) :=
  pairs.foldl (fun entries pair => insertAscending entries pair.1 pair.2) []

/-! ## Lemmas -/

@[simp] theorem find?_insert (entries : List (String × α)) (name other : String) (value : α) :
    find? (insert entries name value) other =
      if name = other then some value else find? entries other := by
  induction entries with
  | nil => simp [insert, find?]
  | cons head rest induction =>
      obtain ⟨present, old⟩ := head
      by_cases same : present = name
      · subst same
        by_cases equal : present = other <;> simp [insert, find?, equal]
      · by_cases equal : present = other
        · subst equal
          simp [insert, find?, same, Ne.symm same]
        · simp [insert, find?, same, equal, induction]

theorem names_insert (entries : List (String × α)) (name : String) (value : α) :
    names (insert entries name value) =
      if name ∈ names entries then names entries else names entries ++ [name] := by
  induction entries with
  | nil => simp [insert, names]
  | cons head rest induction =>
      obtain ⟨present, old⟩ := head
      by_cases same : present = name
      · simp [insert, names, same]
      · simp only [names, insert, same, if_false, List.map_cons, List.mem_cons,
          Ne.symm same, false_or] at induction ⊢
        rw [induction]
        by_cases member : name ∈ List.map Prod.fst rest <;> simp [member]

@[simp] theorem find?_eq_none_iff (entries : List (String × α)) (name : String) :
    find? entries name = none ↔ name ∉ names entries := by
  induction entries with
  | nil => simp [find?, names]
  | cons head rest induction =>
      obtain ⟨present, value⟩ := head
      by_cases same : present = name
      · simp [find?, names, same]
      · have other : name ≠ present := fun equal => same equal.symm
        simpa [find?, names, same, other] using induction

/-- Where names are distinct, a look-up finds every entry. -/
theorem find?_eq_some_iff {entries : List (String × α)} (distinct : (names entries).Nodup)
    (name : String) (value : α) :
    find? entries name = some value ↔ (name, value) ∈ entries := by
  induction entries with
  | nil => simp [find?]
  | cons head rest induction =>
      obtain ⟨present, first⟩ := head
      have parts := List.nodup_cons.mp distinct
      by_cases same : present = name
      · subst same
        have onlyFirst : (present, value) ∉ rest := fun member =>
          parts.1 (List.mem_map.mpr ⟨_, member, rfl⟩)
        simp [find?, onlyFirst, eq_comm]
      · have other : name ≠ present := fun equal => same equal.symm
        simpa [find?, same, other] using induction parts.2

theorem find?_filter_ne (entries : List (String × α)) (name other : String) :
    find? (entries.filter fun entry => entry.1 ≠ name) other =
      if name = other then none else find? entries other := by
  induction entries with
  | nil => simp [find?]
  | cons head rest induction =>
      obtain ⟨present, value⟩ := head
      by_cases removed : present = name
      · rw [List.filter_cons_of_neg (by simpa using removed), induction, find?, removed]
        by_cases equal : name = other <;> simp [equal]
      · rw [List.filter_cons_of_pos (by simpa using removed), find?, find?, induction]
        by_cases equal : present = other
        · have kept : name ≠ other := fun same => removed (equal.trans same.symm)
          simp [equal, kept]
        · simp [equal]

@[simp] theorem names_map_value {β : Type} (change : α → β) (entries : List (String × α)) :
    names (entries.map fun entry => (entry.1, change entry.2)) = names entries := by
  rw [names, names, List.map_map]
  rfl

@[simp] theorem find?_map_value {β : Type} (change : α → β) (entries : List (String × α))
    (name : String) :
    find? (entries.map fun entry => (entry.1, change entry.2)) name =
      (find? entries name).map change := by
  induction entries with
  | nil => rfl
  | cons head rest induction =>
      obtain ⟨present, value⟩ := head
      rw [List.map_cons, find?, find?, induction]
      by_cases equal : present = name <;> simp [equal]

/-- Where names are distinct, an entry that is dropped for its value leaves nothing behind. -/
theorem find?_filter_value {entries : List (String × α)} (distinct : (names entries).Nodup)
    (keeps : α → Bool) (name : String) :
    find? (entries.filter fun entry => keeps entry.2) name = (find? entries name).filter keeps := by
  induction entries with
  | nil => rfl
  | cons head rest induction =>
      obtain ⟨present, value⟩ := head
      have parts := List.nodup_cons.mp distinct
      have later := induction parts.2
      by_cases equal : present = name
      · subst equal
        have absent : find? rest present = none := (find?_eq_none_iff rest present).mpr parts.1
        by_cases kept : keeps value = true
        · simp [find?, kept, Option.filter]
        · simp [find?, kept, Option.filter, later, absent]
      · by_cases kept : keeps value = true
        · simp [find?, kept, equal, later]
        · simp [find?, kept, equal, later]

theorem nodup_names_filter_map {β : Type} {entries : List (String × α)}
    (distinct : (names entries).Nodup) (keeps : α → Bool) (change : α → β) :
    (names ((entries.filter fun entry => keeps entry.2).map fun entry =>
      (entry.1, change entry.2))).Nodup := by
  rw [names, List.map_map]
  exact distinct.sublist (List.filter_sublist.map Prod.fst)

theorem mem_of_mem_insert {entries : List (String × α)} {name : String} {value : α}
    {entry : String × α} (member : entry ∈ insert entries name value) :
    entry ∈ entries ∨ entry = (name, value) := by
  induction entries with
  | nil => exact .inr (List.mem_singleton.mp member)
  | cons head rest induction =>
      obtain ⟨present, old⟩ := head
      by_cases same : present = name
      · rw [insert, if_pos same, List.mem_cons, same] at member
        exact member.symm.imp_left (List.mem_cons_of_mem _)
      · rw [insert, if_neg same, List.mem_cons] at member
        rcases member with first | later
        · exact .inl (first ▸ List.mem_cons_self)
        · exact (induction later).imp_left (List.mem_cons_of_mem _)

/-- Nothing is left that has not arrived. -/
theorem mem_of_mem_ofList {pairs : List (String × α)} {entry : String × α}
    (member : entry ∈ ofList pairs) : entry ∈ pairs := by
  refine List.foldlRecOn (motive := fun entries => ∀ entry ∈ entries, entry ∈ pairs) pairs _
    (List.forall_mem_nil _) (fun entries arrived pair fromPairs other inserted => ?_) entry member
  rcases mem_of_mem_insert inserted with present | rfl
  · exact arrived other present
  · exact fromPairs

theorem nodup_names_insert {entries : List (String × α)} (distinct : (names entries).Nodup)
    (name : String) (value : α) : (names (insert entries name value)).Nodup := by
  rw [names_insert]
  by_cases member : name ∈ names entries
  · rw [if_pos member]
    exact distinct
  · rw [if_neg member, List.nodup_append]
    refine ⟨distinct, by simp, ?_⟩
    intro present presentMember added addedMember equal
    rw [List.mem_singleton] at addedMember
    exact member (addedMember ▸ equal ▸ presentMember)

theorem nodup_names_ofList (pairs : List (String × α)) : (names (ofList pairs)).Nodup :=
  List.foldlRecOn (motive := fun entries => (names entries).Nodup) pairs _ List.nodup_nil
    fun _ distinct (pair : String × α) _ => nodup_names_insert distinct pair.1 pair.2

theorem insert_of_not_mem {entries : List (String × α)} {name : String}
    (absent : name ∉ names entries) (value : α) :
    insert entries name value = entries ++ [(name, value)] := by
  induction entries with
  | nil => rfl
  | cons head rest induction =>
      obtain ⟨present, old⟩ := head
      rw [names, List.map_cons, List.mem_cons, not_or] at absent
      rw [insert, if_neg (Ne.symm absent.1), induction absent.2, List.cons_append]

/-- Pairs of distinct names stay as they have arrived. -/
theorem ofList_of_nodup {pairs : List (String × α)} (distinct : (names pairs).Nodup) :
    ofList pairs = pairs := by
  have arriving : ∀ (pairs entries : List (String × α)), (names (entries ++ pairs)).Nodup →
      pairs.foldl (fun entries pair => insert entries pair.1 pair.2) entries =
        entries ++ pairs := by
    intro pairs
    induction pairs with
    | nil => exact fun entries _ => (List.append_nil entries).symm
    | cons pair rest induction =>
        intro entries distinct
        have absent : pair.1 ∉ names entries := by
          rw [names, List.map_append, List.nodup_append] at distinct
          exact fun member => distinct.2.2 _ member _ List.mem_cons_self rfl
        rw [List.foldl_cons, insert_of_not_mem absent, induction, List.append_assoc,
          List.singleton_append]
        rwa [List.append_assoc, List.singleton_append]
  exact arriving pairs [] distinct

example : ofList [("b", 1), ("a", 2), ("b", 3)] = [("b", 3), ("a", 2)] := by decide

end ValueSchema.Entries
