import ValueSchema.Proofs.WrittenJson

/-! # Read JSON

Whatever the text, the numbers of a tree that has been read are in range: an integer is a word of
64 bits, since no significand is longer, and any other number is finite.
-/

namespace ValueSchema

-- Powers are those of core, also beside a library with powers of its own.
attribute [local instance (2000)] instPowNat

theorem Binary64.isFinite_negate (n : Binary64) : n.negate.isFinite = n.isFinite := by
  cases n <;> rfl

namespace Json

/-- All numbers in the tree, at any depth, are words of 64 bits or finite. -/
inductive InRange : Json → Prop
  | null : InRange .null
  | boolean {truth} : InRange (.boolean truth)
  | integer {n} (fits : FitsWord n) : InRange (.integer n)
  | real {n} (finite : n.isFinite = true) : InRange (.real n)
  | string {text} : InRange (.string text)
  | array {items} (each : ∀ item ∈ items, InRange item) : InRange (.array items)
  | object {members : List (String × Json)} (each : ∀ member ∈ members, InRange member.2) :
      InRange (.object members)

/-! ## Numbers -/

theorem absorb_lt {significand : Nat} (fits : significand < 2 ^ (64 : Nat))
    (digits : List Char) : (absorb significand digits).1 < 2 ^ (64 : Nat) := by
  induction digits generalizing significand with
  | nil => exact fits
  | cons digit rest induction =>
      rw [absorb]
      split
      next more => exact induction more
      next => exact fits

theorem inRange_of_real? {negative : Bool} {significand : Nat} {exponent : Int} {json : Json}
    (made : real? negative significand exponent = some json) : json.InRange := by
  rw [real?] at made
  split at made
  next finite =>
    cases made
    refine .real ?_
    cases negative with
    | false => exact finite
    | true => rwa [if_pos rfl, Binary64.isFinite_negate]
  next => cases made

theorem inRange_of_integer? {negative : Bool} {significand : Nat} {json : Json}
    (fits : significand < 2 ^ (64 : Nat)) (made : integer? negative significand = some json) :
    json.InRange := by
  rw [integer?] at made
  split at made
  · cases made
    exact .integer ⟨by omega, by omega⟩
  · split at made
    next small =>
      cases made
      exact .integer ⟨by omega, by omega⟩
    next => exact inRange_of_real? made

theorem inRange_of_readNumber {text rest : List Char} {json : Json}
    (read : readNumber text = some (json, rest)) : json.InRange := by
  simp only [readNumber, Option.bind_eq_bind] at read
  generalize (if text.head? = some '-' then text.drop 1 else text) = unsigned at read
  split at read
  next => cases read
  next =>
    rcases Option.bind_eq_some_iff.mp read with ⟨fraction, _, read⟩
    rcases Option.bind_eq_some_iff.mp read with ⟨exponent, _, read⟩
    split at read
    all_goals
      rcases Option.bind_eq_some_iff.mp read with ⟨number, made, equal⟩
      cases equal
    · exact inRange_of_integer? (absorb_lt (by decide) _) made
    · exact inRange_of_real? made

/-! ## Trees -/

section

variable {demand : Json → Prop} {read : List Char → Option (Json × List Char)}
  (each : ∀ text json rest, read text = some (json, rest) → demand json)

include each

/-- What holds of every tree that is read holds of the items of an array. -/
theorem forall_of_readItems {fuel : Nat} {text rest : List Char} {items : List Json}
    (done : readItems read fuel text = some (items, rest)) : ∀ item ∈ items, demand item := by
  induction fuel generalizing text items rest with
  | zero => cases done
  | succ fuel induction =>
      rw [readItems] at done
      rcases Option.bind_eq_some_iff.mp done with ⟨⟨item, behind⟩, first, done⟩
      have holds := each text item behind first
      simp only at done
      split at done
      next =>
        cases done
        exact List.forall_mem_singleton.mpr holds
      next =>
        rcases Option.map_eq_some_iff.mp done with ⟨⟨others, ending⟩, more, equal⟩
        cases equal
        exact List.forall_mem_cons.mpr ⟨holds, induction more⟩
      next => cases done

theorem forall_of_readMembers {fuel : Nat} {text rest : List Char}
    {members : List (String × Json)}
    (done : readMembers read fuel text = some (members, rest)) :
    ∀ member ∈ members, demand member.2 := by
  induction fuel generalizing text members rest with
  | zero => cases done
  | succ fuel induction =>
      rw [readMembers] at done
      split at done
      next =>
        rcases Option.bind_eq_some_iff.mp done with ⟨⟨name, afterName⟩, _, done⟩
        simp only at done
        split at done
        next =>
          rcases Option.bind_eq_some_iff.mp done with ⟨⟨member, behind⟩, first, done⟩
          have holds := each _ member behind first
          simp only at done
          split at done
          next =>
            cases done
            exact List.forall_mem_singleton.mpr holds
          next =>
            rcases Option.map_eq_some_iff.mp done with ⟨⟨others, ending⟩, more, equal⟩
            cases equal
            exact List.forall_mem_cons.mpr ⟨holds, induction more⟩
          next => cases done
        next => cases done
      next => cases done

end

theorem inRange_of_readTree {levels : Nat} {text rest : List Char} {json : Json}
    (read : readTree levels text = some (json, rest)) : json.InRange := by
  induction levels using Nat.strongRecOn generalizing text json rest with
  | ind levels induction =>
      rw [readTree.eq_def] at read
      -- One case for each way in which a tree can start, numbers last.
      split at read
      case h_1 => cases read; exact .null
      case h_2 => cases read; exact .boolean
      case h_3 => cases read; exact .boolean
      case h_4 =>
        rcases Option.map_eq_some_iff.mp read with ⟨_, _, equal⟩
        cases equal
        exact .string
      case h_5 =>
        split at read
        next => cases read
        next levels =>
          split at read
          next =>
            cases read
            exact .array (List.forall_mem_nil _)
          next =>
            rcases Option.map_eq_some_iff.mp read with ⟨⟨items, _⟩, done, equal⟩
            cases equal
            exact .array
              (forall_of_readItems (fun _ _ _ => induction levels (Nat.lt_succ_self _)) done)
      case h_6 =>
        split at read
        next => cases read
        next levels =>
          split at read
          next =>
            cases read
            exact .object (List.forall_mem_nil _)
          next =>
            rcases Option.map_eq_some_iff.mp read with ⟨⟨members, _⟩, done, equal⟩
            cases equal
            exact .object
              (forall_of_readMembers (fun _ _ _ => induction levels (Nat.lt_succ_self _)) done)
      case h_7 => exact inRange_of_readNumber read

theorem inRange_of_parse? {text : String} {json : Json} (read : parse? text = some json) :
    json.InRange := by
  rcases Option.bind_eq_some_iff.mp read with ⟨⟨tree, rest⟩, tree_read, ended⟩
  simp only at ended
  split at ended
  next =>
    cases ended
    exact inRange_of_readTree tree_read
  next => cases ended

end Json

end ValueSchema
