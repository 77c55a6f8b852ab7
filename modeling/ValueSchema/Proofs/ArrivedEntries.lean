import ValueSchema.Entries

/-! # Arrived entries

After all pairs have arrived, the last value for each name is stored, whether the entries keep
the order of first arrival or are kept with their names ascending.
-/

namespace ValueSchema.Entries

variable {α : Type}

@[simp] theorem find?_append (before after : List (String × α)) (name : String) :
    find? (before ++ after) name = (find? before name).or (find? after name) := by
  induction before with
  | nil => rfl
  | cons head rest induction =>
      obtain ⟨present, value⟩ := head
      rw [List.cons_append, find?, find?, induction]
      by_cases equal : present = name <;> simp [equal]

theorem mem_of_find? {entries : List (String × α)} {name : String} {value : α}
    (found : find? entries name = some value) : (name, value) ∈ entries := by
  induction entries with
  | nil => cases found
  | cons head rest induction =>
      obtain ⟨present, first⟩ := head
      rw [find?] at found
      by_cases equal : present = name
      · rw [if_pos equal, Option.some.injEq] at found
        exact equal ▸ found ▸ List.mem_cons_self
      · rw [if_neg equal] at found
        exact List.mem_cons_of_mem _ (induction found)

theorem mem_names_of_find? {entries : List (String × α)} {name : String} {value : α}
    (found : find? entries name = some value) : name ∈ names entries :=
  List.mem_map_of_mem (mem_of_find? found)

theorem mem_names_iff {entries : List (String × α)} {name : String} :
    name ∈ names entries ↔ find? entries name ≠ none := by
  rw [ne_eq, find?_eq_none_iff, Classical.not_not]

/-! ## The first arrival -/

@[simp] theorem names_cons (entry : String × α) (rest : List (String × α)) :
    names (entry :: rest) = entry.1 :: names rest := rfl

/-- Only names that are not there yet are added, each when it arrives first. -/
theorem names_foldl_insert (pairs entries : List (String × α)) :
    names (pairs.foldl (fun entries pair => insert entries pair.1 pair.2) entries) =
      names entries ++ ((names pairs).filter fun name => name ∉ names entries).eraseDups := by
  induction pairs generalizing entries with
  | nil => exact (List.append_nil _).symm
  | cons pair rest induction =>
      rw [List.foldl_cons, induction, names_insert, names_cons]
      by_cases member : pair.1 ∈ names entries
      · rw [if_pos member, List.filter_cons_of_neg (by simpa using member)]
      · have remaining : ((names rest).filter fun name => name ∉ names entries ++ [pair.1]) =
            ((names rest).filter fun name => name ∉ names entries).filter fun name =>
              !name == pair.1 := by
          rw [List.filter_filter]
          refine List.filter_congr fun name _ => ?_
          simp only [List.mem_append, List.mem_singleton, not_or, Bool.decide_and, decide_not]
          exact Bool.and_comm _ _
        rw [if_neg member, List.filter_cons_of_pos (by simpa using member), List.eraseDups_cons,
          remaining, List.append_assoc, List.singleton_append]

@[simp] theorem names_ofList (pairs : List (String × α)) :
    names (ofList pairs) = (names pairs).eraseDups := by
  have fresh : ((names pairs).filter fun name => name ∉ names ([] : List (String × α))) =
      names pairs := List.filter_eq_self.mpr fun name _ => decide_eq_true List.not_mem_nil
  rw [ofList, names_foldl_insert, fresh]
  rfl

/-! ## The last value -/

theorem find?_reverse_ne_none_iff {pairs : List (String × α)} {name : String} :
    find? pairs.reverse name ≠ none ↔ name ∈ names pairs := by
  rw [← mem_names_iff, names, List.map_reverse, List.mem_reverse, names]

theorem exists_last {pairs : List (String × α)} {name : String} (member : name ∈ names pairs) :
    ∃ value, find? pairs.reverse name = some value :=
  Option.ne_none_iff_exists'.mp (find?_reverse_ne_none_iff.mpr member)

/-- Where each arrival changes the look-up of its own name only, the last pair of a name counts,
and what was there before only if there is none. -/
theorem find?_foldl {arrive : List (String × α) → String → α → List (String × α)}
    (look : ∀ entries name other value, find? (arrive entries name value) other =
      if name = other then some value else find? entries other)
    (pairs entries : List (String × α)) (name : String) :
    find? (pairs.foldl (fun entries pair => arrive entries pair.1 pair.2) entries) name =
      (find? pairs.reverse name).or (find? entries name) := by
  induction pairs generalizing entries with
  | nil => rfl
  | cons pair rest induction =>
      rw [List.foldl_cons, induction, look, List.reverse_cons, find?_append, Option.or_assoc,
        find?, find?]
      by_cases equal : pair.1 = name <;> simp [equal]

theorem find?_ofList (pairs : List (String × α)) (name : String) :
    find? (ofList pairs) name = find? pairs.reverse name :=
  (find?_foldl find?_insert pairs [] name).trans Option.or_none

theorem find?_insertAscending (entries : List (String × α)) (name other : String) (value : α) :
    find? (insertAscending entries name value) other =
      if name = other then some value else find? entries other := by
  induction entries with
  | nil => rfl
  | cons head rest induction =>
      obtain ⟨present, old⟩ := head
      by_cases same : present = name
      · subst same
        rw [insertAscending, if_pos rfl, find?, find?]
        by_cases equal : present = other <;> simp [equal]
      · by_cases before : name < present
        · rw [insertAscending, if_neg same, if_pos before, find?]
        · rw [insertAscending, if_neg same, if_neg before, find?, find?, induction]
          by_cases equal : present = other
          · subst equal
            simp [Ne.symm same]
          · simp [equal]

theorem find?_ofListAscending (pairs : List (String × α)) (name : String) :
    find? (ofListAscending pairs) name = find? pairs.reverse name :=
  (find?_foldl find?_insertAscending pairs [] name).trans Option.or_none

/-! ## Ascending names -/

def Ascending (entries : List (String × α)) : Prop := (names entries).Pairwise (· < ·)

theorem mem_names_insertAscending {entries : List (String × α)} {name other : String} {value : α} :
    other ∈ names (insertAscending entries name value) ↔ other = name ∨ other ∈ names entries := by
  rw [mem_names_iff, mem_names_iff, find?_insertAscending]
  by_cases equal : name = other
  · simp [equal]
  · simp [equal, Ne.symm equal]

theorem Ascending.insertAscending {entries : List (String × α)} (ascending : Ascending entries)
    (name : String) (value : α) : Ascending (insertAscending entries name value) := by
  induction entries with
  | nil => exact List.pairwise_singleton _ _
  | cons head rest induction =>
      obtain ⟨present, old⟩ := head
      have parts := List.pairwise_cons.mp ascending
      by_cases same : present = name
      · rw [Entries.insertAscending, if_pos same]
        exact ascending
      · by_cases before : name < present
        · rw [Entries.insertAscending, if_neg same, if_pos before]
          refine List.pairwise_cons.mpr ⟨fun other member => ?_, ascending⟩
          rcases List.mem_cons.mp member with rfl | later
          · exact before
          · exact String.lt_trans before (parts.1 other later)
        · have behind : present < name :=
            Std.lt_of_le_of_ne (String.not_lt.mp before) same
          rw [Entries.insertAscending, if_neg same, if_neg before]
          refine List.pairwise_cons.mpr ⟨fun other member => ?_, induction parts.2⟩
          rcases mem_names_insertAscending.mp member with rfl | later
          · exact behind
          · exact parts.1 other later

theorem ascending_ofListAscending (pairs : List (String × α)) :
    Ascending (ofListAscending pairs) :=
  List.foldlRecOn (motive := Ascending) pairs _ List.Pairwise.nil
    fun _ ascending (pair : String × α) _ => ascending.insertAscending pair.1 pair.2

theorem Ascending.nodup {entries : List (String × α)} (ascending : Ascending entries) :
    (names entries).Nodup :=
  List.Pairwise.imp (fun {first second} (less : first < second) (equal : first = second) =>
    String.lt_irrefl second (equal ▸ less)) ascending

/-- Ascending names are determined by which names there are. -/
theorem Ascending.names_eq {β : Type} {entries : List (String × α)} {others : List (String × β)}
    (ascending : Ascending entries) (othersAscending : Ascending others)
    (same : ∀ name, name ∈ names entries ↔ name ∈ names others) :
    names entries = names others := by
  have permuted : (names entries).Perm (names others) :=
    (List.perm_ext_iff_of_nodup ascending.nodup othersAscending.nodup).mpr same
  apply permuted.eq_of_pairwise _ ascending othersAscending
  intro first second _ _ before behind
  exact (String.lt_irrefl first (String.lt_trans before behind)).elim

theorem mem_of_mem_ofListAscending {pairs : List (String × α)} {entry : String × α}
    (member : entry ∈ ofListAscending pairs) : entry ∈ pairs := by
  have found := (find?_eq_some_iff (ascending_ofListAscending pairs).nodup entry.1 entry.2).mpr
    member
  rw [find?_ofListAscending] at found
  exact List.mem_reverse.mp (mem_of_find? found)

example : ofListAscending [("b", 1), ("a", 2), ("b", 3)] = [("a", 2), ("b", 3)] := by decide

/-! ## Values replaced -/

theorem insertAscending_map_value {β : Type} (change : α → β) (entries : List (String × α))
    (name : String) (value : α) :
    insertAscending (entries.map fun entry => (entry.1, change entry.2)) name (change value) =
      (insertAscending entries name value).map fun entry => (entry.1, change entry.2) := by
  induction entries with
  | nil => rfl
  | cons head rest induction =>
      obtain ⟨present, old⟩ := head
      rw [List.map_cons, insertAscending, insertAscending, induction]
      by_cases same : present = name
      · rw [if_pos same, if_pos same, List.map_cons]
      · rw [if_neg same, if_neg same]
        by_cases before : name < present
        · rw [if_pos before, if_pos before, List.map_cons, List.map_cons]
        · rw [if_neg before, if_neg before, List.map_cons]

/-- It makes no difference whether values are replaced on arrival or afterwards. -/
theorem ofListAscending_map_value {β : Type} (change : α → β) (pairs : List (String × α)) :
    ofListAscending (pairs.map fun pair => (pair.1, change pair.2)) =
      (ofListAscending pairs).map fun entry => (entry.1, change entry.2) := by
  have arriving (entries : List (String × α)) :
      (pairs.map fun pair => (pair.1, change pair.2)).foldl
        (fun entries pair => insertAscending entries pair.1 pair.2)
        (entries.map fun entry => (entry.1, change entry.2)) =
      (pairs.foldl (fun entries pair => insertAscending entries pair.1 pair.2) entries).map
        fun entry => (entry.1, change entry.2) := by
    induction pairs generalizing entries with
    | nil => rfl
    | cons pair rest induction =>
        rw [List.map_cons, List.foldl_cons, List.foldl_cons, insertAscending_map_value, induction]
  exact arriving []

end ValueSchema.Entries
