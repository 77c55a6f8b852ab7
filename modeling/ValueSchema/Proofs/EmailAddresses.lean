import ValueSchema.Proofs.Conformance

/-! # Email addresses

The matcher looks at a text once from each end. What it accepts are the texts that can be split
into a local part, a domain and a top-level domain, wherever the split may be.
-/

namespace ValueSchema

/-! ## Inner members -/

section

variable {α : Type} {list : List α} {a : α}

theorem mem_dropLast_drop_one_iff :
    a ∈ (list.drop 1).dropLast ↔
      ∃ position, 0 < position ∧ position + 1 < list.length ∧ list[position]? = some a := by
  simp only [List.mem_iff_getElem?, List.getElem?_dropLast, List.getElem?_drop, List.length_drop]
  -- An index into the list without its ends is one less than that into the whole list.
  constructor
  · rintro ⟨index, found⟩
    by_cases inside : index < list.length - 1 - 1
    · rw [if_pos inside] at found
      exact ⟨1 + index, by omega, by omega, found⟩
    · rw [if_neg inside] at found
      cases found
  · rintro ⟨position, positive, inside, found⟩
    have shifted : 1 + (position - 1) = position := by omega
    refine ⟨position - 1, ?_⟩
    rw [if_pos (by omega), shifted, found]

theorem exists_inner_position_iff :
    (∃ position, 0 < position ∧ position + 1 < list.length ∧ list[position]? = some a) ↔
      ∃ before after, before ≠ [] ∧ after ≠ [] ∧ list = before ++ a :: after := by
  constructor
  · rintro ⟨position, positive, inside, found⟩
    rcases List.getElem?_eq_some_iff.mp found with ⟨bound, here⟩
    refine ⟨list.take position, list.drop (position + 1), ?_, ?_, ?_⟩
    · apply List.ne_nil_of_length_pos
      rw [List.length_take]
      omega
    · apply List.ne_nil_of_length_pos
      rw [List.length_drop]
      omega
    · rw [← here, ← List.drop_eq_getElem_cons bound, List.take_append_drop]
  · rintro ⟨before, after, beforeNonempty, afterNonempty, rfl⟩
    have beforePositive := List.length_pos_iff.mpr beforeNonempty
    have afterPositive := List.length_pos_iff.mpr afterNonempty
    refine ⟨before.length, beforePositive, ?_, ?_⟩
    · rw [List.length_append, List.length_cons]
      omega
    · rw [List.getElem?_append_right (Nat.le_refl _), Nat.sub_self, List.getElem?_cons_zero]

end

/-! ## The matcher -/

theorem dropWhile_append_of_noAt {before : List Char} (noAt : '@' ∉ before) (rest : List Char) :
    (before ++ rest).dropWhile (fun c => decide (c ≠ '@')) =
      rest.dropWhile fun c => decide (c ≠ '@') := by
  apply List.dropWhile_append_of_pos
  intro c member
  apply decide_eq_true
  rintro rfl
  exact noAt member

theorem isEmail_of_noAt {text : List Char} (noAt : '@' ∉ text) : isEmail text = false := by
  have nothing := dropWhile_append_of_noAt noAt []
  rw [List.append_nil] at nothing
  rw [isEmail, nothing]
  rfl

/-- The parts of an address are split at the first at sign. -/
theorem isEmail_append_iff {before : List Char} (noAt : '@' ∉ before) (domain : List Char) :
    isEmail (before ++ '@' :: domain) = true ↔
      before ≠ [] ∧ '@' ∉ domain ∧ '.' ∈ (domain.drop 1).dropLast ∧
        ∀ c ∈ before ++ '@' :: domain, isWhiteSpace c = false := by
  have split : (before ++ '@' :: domain).dropWhile (fun c => decide (c ≠ '@')) =
      '@' :: domain := by
    rw [dropWhile_append_of_noAt noAt]
    rfl
  have head : (before ++ '@' :: domain).head? ≠ some '@' ↔ before ≠ [] := by
    cases before with
    | nil => simp
    | cons first rest =>
        rw [List.mem_cons, not_or] at noAt
        simp [Ne.symm noAt.1]
  rw [isEmail, split]
  simp only [Bool.and_eq_true, decide_eq_true_eq, head, Bool.not_eq_true', List.any_eq_false,
    Bool.not_eq_true, and_assoc, List.contains_eq_mem, decide_eq_false_iff_not]

theorem isEmail_iff_exists_split (text : List Char) :
    isEmail text = true ↔
      ∃ before domain, text = before ++ '@' :: domain ∧ before ≠ [] ∧ '@' ∉ before ∧
        '@' ∉ domain ∧ '.' ∈ (domain.drop 1).dropLast ∧ ∀ c ∈ text, isWhiteSpace c = false := by
  constructor
  · intro accepted
    by_cases found : '@' ∈ text
    · rcases List.eq_append_cons_of_mem found with ⟨before, domain, rfl, noAt⟩
      rcases (isEmail_append_iff noAt domain).mp accepted with
        ⟨nonempty, domainNoAt, inner, noSpace⟩
      exact ⟨before, domain, rfl, nonempty, noAt, domainNoAt, inner, noSpace⟩
    · rw [isEmail_of_noAt found] at accepted
      cases accepted
  · rintro ⟨before, domain, rfl, nonempty, noAt, domainNoAt, inner, noSpace⟩
    exact (isEmail_append_iff noAt domain).mpr ⟨nonempty, domainNoAt, inner, noSpace⟩

/-! ## Addresses -/

/-- No white space, a single at sign with something before it, and a dot inside what is behind. -/
theorem isEmail_iff_count (text : List Char) :
    isEmail text = true ↔
      (∀ c ∈ text, isWhiteSpace c = false) ∧ text.count '@' = 1 ∧
      ∃ before after, text = before ++ '@' :: after ∧ before ≠ [] ∧
        ∃ position, 0 < position ∧ position + 1 < after.length ∧
          after[position]? = some '.' := by
  simp only [isEmail_iff_exists_split, mem_dropLast_drop_one_iff]
  constructor
  · rintro ⟨before, after, rfl, nonempty, noAt, afterNoAt, inner, noSpace⟩
    refine ⟨noSpace, ?_, before, after, rfl, nonempty, inner⟩
    rw [List.count_append, List.count_cons_self, List.count_eq_zero.mpr noAt,
      List.count_eq_zero.mpr afterNoAt]
  · rintro ⟨noSpace, once, before, after, rfl, nonempty, inner⟩
    rw [List.count_append, List.count_cons_self] at once
    have noAt : '@' ∉ before := List.count_eq_zero.mp (by omega)
    have afterNoAt : '@' ∉ after := List.count_eq_zero.mp (by omega)
    exact ⟨before, after, rfl, nonempty, noAt, afterNoAt, inner, noSpace⟩

/-- A part of an address: something without at signs and white space. -/
def IsAddressPart (part : List Char) : Prop :=
  part ≠ [] ∧ ∀ c ∈ part, c ≠ '@' ∧ isWhiteSpace c = false

theorem isAddressPart_iff {part : List Char} :
    IsAddressPart part ↔
      part ≠ [] ∧ '@' ∉ part ∧ ∀ c ∈ part, isWhiteSpace c = false := by
  refine and_congr_right fun _ => ⟨fun each => ?_, fun both c member => ⟨?_, both.2 c member⟩⟩
  · exact ⟨fun member => (each '@' member).1 rfl, fun c member => (each c member).2⟩
  · rintro rfl
    exact both.1 member

/-- The text is split at the at sign and, behind it, at any dot inside. -/
theorem isEmail_iff_exists_parts (text : List Char) :
    isEmail text = true ↔
      ∃ localPart domain top, IsAddressPart localPart ∧ IsAddressPart domain ∧
        IsAddressPart top ∧ text = localPart ++ '@' :: (domain ++ '.' :: top) := by
  simp only [isEmail_iff_exists_split, mem_dropLast_drop_one_iff, exists_inner_position_iff,
    isAddressPart_iff]
  have plainAt : isWhiteSpace '@' = false := by decide
  have plainDot : isWhiteSpace '.' = false := by decide
  constructor
  · rintro ⟨localPart, _, rfl, nonempty, noAt, afterNoAt,
      ⟨domain, top, domainNonempty, topNonempty, rfl⟩, noSpace⟩
    simp only [List.mem_append, List.mem_cons, not_or] at afterNoAt
    simp only [List.forall_mem_append, List.forall_mem_cons] at noSpace
    exact ⟨localPart, domain, top, ⟨nonempty, noAt, noSpace.1⟩,
      ⟨domainNonempty, afterNoAt.1, noSpace.2.2.1⟩,
      ⟨topNonempty, afterNoAt.2.2, noSpace.2.2.2.2⟩, rfl⟩
  · rintro ⟨localPart, domain, top, ⟨nonempty, noAt, noSpace⟩,
      ⟨domainNonempty, domainNoAt, domainNoSpace⟩, ⟨topNonempty, topNoAt, topNoSpace⟩, rfl⟩
    refine ⟨localPart, _, rfl, nonempty, noAt, ?_,
      ⟨domain, top, domainNonempty, topNonempty, rfl⟩, ?_⟩
    · simp [domainNoAt, topNoAt]
    · simp only [List.forall_mem_append, List.forall_mem_cons]
      exact ⟨noSpace, plainAt, domainNoSpace, plainDot, topNoSpace⟩

theorem exists_string_iff {demand : List Char → Prop} :
    (∃ characters, demand characters) ↔ ∃ text : String, demand text.toList := by
  constructor
  · rintro ⟨characters, holds⟩
    exact ⟨String.ofList characters, by rwa [String.toList_ofList]⟩
  · rintro ⟨text, holds⟩
    exact ⟨text.toList, holds⟩

/-- The email constraint accepts the texts that can be split into three parts, by an at sign and a
dot. These are the texts without white space and with a single at sign, which has something before
it and behind it a dot that is neither first nor last. -/
theorem email_accepts_exactly (text : String) :
    (Constraint.email.Holds text ↔
      ∃ localPart domain top : String, IsAddressPart localPart.toList ∧
        IsAddressPart domain.toList ∧ IsAddressPart top.toList ∧
          text = localPart ++ "@" ++ domain ++ "." ++ top) ∧
    (Constraint.email.Holds text ↔
      (∀ c ∈ text.toList, isWhiteSpace c = false) ∧ text.toList.count '@' = 1 ∧
      ∃ before after : String, text = before ++ "@" ++ after ∧ before ≠ "" ∧
        ∃ position, 0 < position ∧ position + 1 < after.length ∧
          after.toList[position]? = some '.') := by
  have matcher : Constraint.email.Holds text ↔ isEmail text.toList = true :=
    Constraint.holds_ofPredicate_iff
  have atOnce (before after : String) : text = before ++ "@" ++ after ↔
      text.toList = before.toList ++ '@' :: after.toList := by
    rw [← String.toList_inj]
    simp [String.toList_append]
  have inThree (localPart domain top : String) : text = localPart ++ "@" ++ domain ++ "." ++ top ↔
      text.toList = localPart.toList ++ '@' :: (domain.toList ++ '.' :: top.toList) := by
    rw [← String.toList_inj]
    simp [String.toList_append]
  constructor
  · rw [matcher, isEmail_iff_exists_parts]
    simp only [exists_string_iff, inThree]
  · rw [matcher, isEmail_iff_count]
    simp only [exists_string_iff, atOnce, String.length_toList, ne_eq, String.toList_eq_nil_iff]

end ValueSchema
