import ValueSchema.Json.Reading
import ValueSchema.Proofs.JsonTree

/-! # Written JSON

The compact text of a tree is read back as that tree: strings through their escapes, integers
through their digits, and arrays and objects through any nesting that the reader allows. Only
trees whose numbers are integers of 64 bits are spoken of here; others may lose digits.
-/

namespace ValueSchema.Json

-- Powers are those of core, also beside a library with powers of its own.
attribute [local instance (2000)] instPowNat

/-! ## Strings -/

/-- How the reader sees a character that has been written. -/
def unitOf (c : Char) : StringUnit :=
  if c.toNat < 0x20 ∧ c ∉ ['\x08', '\x0c', '\n', '\r', '\t'] then .code c.toNat else .plain c

/-- A character is written as a letter that stands for it, by its code, or as itself. -/
theorem escapedChar_cases (c : Char) :
    (∃ letter, letter ≠ 'u' ∧ escapeLetter? letter = some c ∧ escapedChar c = ['\\', letter] ∧
      unitOf c = .plain c) ∨
    (c.toNat < 0x20 ∧ unitOf c = .code c.toNat ∧
      escapedChar c =
        ['\\', 'u', '0', '0', Nat.digitChar (c.toNat / 16), Nat.digitChar (c.toNat % 16)]) ∨
    (c ≠ '"' ∧ c ≠ '\\' ∧ 0x20 ≤ c.toNat ∧ escapedChar c = [c] ∧ unitOf c = .plain c) := by
  by_cases lettered : c ∈ ['"', '\\', '\x08', '\x0c', '\n', '\r', '\t']
  · refine .inl ?_
    simp only [List.mem_cons, List.not_mem_nil, or_false] at lettered
    rcases lettered with rfl | rfl | rfl | rfl | rfl | rfl | rfl
    · exact ⟨'"', by decide⟩
    · exact ⟨'\\', by decide⟩
    · exact ⟨'b', by decide⟩
    · exact ⟨'f', by decide⟩
    · exact ⟨'n', by decide⟩
    · exact ⟨'r', by decide⟩
    · exact ⟨'t', by decide⟩
  · refine .inr ?_
    simp only [List.mem_cons, List.not_mem_nil, or_false, not_or] at lettered
    by_cases control : c.toNat < 0x20
    · refine .inl ⟨control, ?_, ?_⟩
      · simp [unitOf, control, lettered]
      · simp [escapedChar, control, lettered]
    · refine .inr ⟨lettered.1, lettered.2.1, by omega, ?_, ?_⟩
      · simp [escapedChar, control, lettered]
      · simp [unitOf, control]

theorem readUnits_letter {letter c : Char} (notCode : letter ≠ 'u')
    (escape : escapeLetter? letter = some c) (tail : List Char) :
    readUnits ('\\' :: letter :: tail) = (readUnits tail).map fun (units, rest) =>
      (.plain c :: units, rest) := by
  rw [readUnits, escape]
  · cases readUnits tail <;> rfl
  · intro _ _ _ _ _ equal _
    exact notCode equal

theorem readUnits_self {c : Char} (notQuote : c ≠ '"') (notBackslash : c ≠ '\\')
    (notControl : 0x20 ≤ c.toNat) (tail : List Char) :
    readUnits (c :: tail) =
      (readUnits tail).map fun (units, rest) => (.plain c :: units, rest) := by
  have allowed : ¬(c = '\\' ∨ c.toNat < 0x20) := by
    rintro (equal | control)
    · exact notBackslash equal
    · omega
  rw [readUnits, if_neg allowed]
  · exact notQuote
  · intro _ _ _ _ _ equal _
    exact notBackslash equal
  · intro _ _ equal _
    exact notBackslash equal

theorem hexDigit?_digitChar : ∀ n < 16, hexDigit? (Nat.digitChar n) = some n := by decide

theorem readUnits_code {n : Nat} (small : n < 256) (tail : List Char) :
    readUnits ('\\' :: 'u' :: '0' :: '0' :: Nat.digitChar (n / 16) :: Nat.digitChar (n % 16) ::
      tail) = (readUnits tail).map fun (units, rest) => (.code n :: units, rest) := by
  have zero : hexDigit? '0' = some 0 := by decide
  have high := hexDigit?_digitChar (n / 16) (by omega)
  have low := hexDigit?_digitChar (n % 16) (by omega)
  have whole : 4096 * 0 + 256 * 0 + 16 * (n / 16) + n % 16 = n := by omega
  rw [readUnits, zero, high, low]
  simp only [Option.bind_eq_bind, Option.bind_some, whole]
  cases readUnits tail <;> rfl

theorem readUnits_escapedChar (c : Char) (tail : List Char) :
    readUnits (escapedChar c ++ tail) =
      (readUnits tail).map fun (units, rest) => (unitOf c :: units, rest) := by
  rcases escapedChar_cases c with ⟨letter, notCode, escape, written, unit⟩ |
    ⟨control, unit, written⟩ | ⟨notQuote, notBackslash, notControl, written, unit⟩
  · rw [written, unit]
    exact readUnits_letter notCode escape tail
  · rw [written, unit]
    exact readUnits_code (by omega) tail
  · rw [written, unit]
    exact readUnits_self notQuote notBackslash notControl tail

theorem readUnits_written (text tail : List Char) :
    readUnits (text.flatMap escapedChar ++ '"' :: tail) = some (text.map unitOf, tail) := by
  induction text with
  | nil => rw [List.flatMap_nil, List.nil_append, readUnits, List.map_nil]
  | cons c rest induction =>
      rw [List.flatMap_cons, List.append_assoc, readUnits_escapedChar, induction]
      rfl

/-- A code below those of surrogates is a character of its own, whatever follows. -/
theorem joinUnits_code {n : Nat} (small : n < 0xD800) (units : List StringUnit) :
    joinUnits (.code n :: units) = (joinUnits units).map (Char.ofNat n :: ·) := by
  have notHigh : ¬0xD800 ≤ n := by omega
  cases units with
  | nil => simp [joinUnits, notHigh]
  | cons unit units =>
      cases unit with
      | plain c => simp [joinUnits, notHigh]
      | code low => rw [joinUnits, if_neg (by omega), if_neg (by omega)]

theorem joinUnits_unitOf (text : List Char) : joinUnits (text.map unitOf) = some text := by
  induction text with
  | nil => rfl
  | cons c rest induction =>
      rw [List.map_cons, unitOf]
      split
      next control =>
        rw [joinUnits_code (by omega), induction, Char.ofNat_toNat]
        rfl
      next => rw [joinUnits, induction]; rfl

theorem readString_written (text : String) (tail : List Char) :
    readString (text.toList.flatMap escapedChar ++ '"' :: tail) = some (text, tail) := by
  rw [readString, readUnits_written]
  simp only [Option.bind_eq_bind, Option.bind_some, joinUnits_unitOf, String.ofList_toList]

/-! ## Numbers -/

/-- What may follow an item or a member: the end, a comma or a closing bracket. -/
def EndsToken : List Char → Prop
  | [] => True
  | c :: _ => c ∈ [',', ']', '\x7d']

theorem head?_toDigits_ne_zero {n : Nat} (positive : 0 < n) :
    (Nat.toDigits 10 n).head? ≠ some '0' := by
  induction n using Nat.strongRecOn with
  | ind n induction =>
      rcases Nat.lt_or_ge n 10 with small | large
      · rw [Nat.toDigits_of_lt_base small, List.head?_singleton]
        intro zero
        have isZero := Nat.digitChar_eq_zero.mp (Option.some.inj zero)
        omega
      · have leading := induction (n / 10) (by omega) (by omega)
        rw [Nat.toDigits_of_base_le (by decide) large]
        cases digits : Nat.toDigits 10 (n / 10) with
        | nil => exact absurd digits Nat.toDigits_ne_nil
        | cons first others =>
            rw [digits] at leading
            exact leading

theorem absorb_eq {digits : List Char} (allDigits : ∀ c ∈ digits, c.isDigit = true)
    {significand : Nat} (fits : Nat.ofDigitChars 10 digits significand < 2 ^ (64 : Nat)) :
    absorb significand digits = (Nat.ofDigitChars 10 digits significand, 0) := by
  induction digits generalizing significand with
  | nil => rfl
  | cons digit rest induction =>
      rw [List.forall_mem_cons] at allDigits
      have next : Nat.ofDigitChars 10 (digit :: rest) significand =
          Nat.ofDigitChars 10 rest (10 * significand + (digit.toNat - 48)) :=
        Nat.ofDigitChars_cons
      rw [next] at fits ⊢
      have grown : 10 * significand + (digit.toNat - 48) ≤
          Nat.ofDigitChars 10 rest (10 * significand + (digit.toNat - 48)) := by
        rw [Nat.ofDigitChars_eq_ofDigitChars_zero]
        exact Nat.le_trans (Nat.le_mul_of_pos_left _ (Nat.pow_pos (by decide)))
          (Nat.le_add_right _ _)
      rw [absorb]
      rw [if_pos (Nat.lt_of_le_of_lt grown fits), induction allDigits.2 fits]

theorem absorb_toDigits {n : Nat} (fits : n < 2 ^ (64 : Nat)) :
    absorb 0 (Nat.toDigits 10 n) = (n, 0) := by
  have read : Nat.ofDigitChars 10 (Nat.toDigits 10 n) 0 = n := Nat.ofDigitChars_ten_toDigits
  have allDigits : ∀ c ∈ Nat.toDigits 10 n, c.isDigit = true := fun _ =>
    Nat.isDigit_of_mem_toDigits (by decide) (by decide)
  rw [absorb_eq allDigits (by rwa [read]), read]

namespace EndsToken

theorem cons_iff {c : Char} {rest : List Char} :
    EndsToken (c :: rest) ↔ c = ',' ∨ c = ']' ∨ c = '\x7d' := by
  simp only [EndsToken, List.mem_cons, List.not_mem_nil, or_false]

theorem comma (rest : List Char) : EndsToken (',' :: rest) := cons_iff.mpr (.inl rfl)

theorem bracket (rest : List Char) : EndsToken (']' :: rest) := cons_iff.mpr (.inr (.inl rfl))

theorem brace (rest : List Char) : EndsToken ('\x7d' :: rest) := cons_iff.mpr (.inr (.inr rfl))

variable {rest : List Char}

theorem takeWhile_append (ends : EndsToken rest) {digits : List Char}
    (allDigits : ∀ c ∈ digits, c.isDigit = true) :
    (digits ++ rest).takeWhile Char.isDigit = digits ∧
    (digits ++ rest).dropWhile Char.isDigit = rest := by
  rw [List.takeWhile_append_of_pos allDigits, List.dropWhile_append_of_pos allDigits]
  cases rest with
  | nil => exact ⟨List.append_nil _, rfl⟩
  | cons c rest =>
      have noDigit : ¬c.isDigit = true := by
        rcases cons_iff.mp ends with rfl | rfl | rfl <;> decide
      rw [List.takeWhile_cons_of_neg noDigit, List.dropWhile_cons_of_neg noDigit]
      exact ⟨List.append_nil _, rfl⟩

theorem readFraction_eq (ends : EndsToken rest) : readFraction rest = some ([], rest) := by
  cases rest with
  | nil => rfl
  | cons c rest =>
      rcases cons_iff.mp ends with rfl | rfl | rfl <;> rfl

theorem readExponent_eq (ends : EndsToken rest) : readExponent rest = some (none, rest) := by
  cases rest with
  | nil => rfl
  | cons c rest =>
      rcases cons_iff.mp ends with rfl | rfl | rfl <;> rfl

end EndsToken

/-- The digits of a natural number, with a minus in front of them or not, are an integer. -/
theorem readNumber_digits {rest : List Char} (ends : EndsToken rest) (negative : Bool) {n : Nat}
    (fits : n < 2 ^ (64 : Nat)) :
    readNumber ((if negative then ['-'] else []) ++ Nat.toDigits 10 n ++ rest) =
      (integer? negative n).map fun json => (json, rest) := by
  have allDigits : ∀ c ∈ Nat.toDigits 10 n, c.isDigit = true := fun _ =>
    Nat.isDigit_of_mem_toDigits (by decide) (by decide)
  have noPadding : ¬(Nat.toDigits 10 n = [] ∨
      (Nat.toDigits 10 n).head? = some '0' ∧ 1 < (Nat.toDigits 10 n).length) := by
    rintro (empty | ⟨zero, long⟩)
    · exact Nat.toDigits_ne_nil empty
    · rcases Nat.eq_zero_or_pos n with rfl | positive
      · exact absurd long (by decide)
      · exact head?_toDigits_ne_zero positive zero
  have sign : (((if negative then ['-'] else []) ++ Nat.toDigits 10 n ++ rest).head? = some '-') =
      (negative = true) := by
    cases negative with
    | true => simp
    | false =>
      cases digits : Nat.toDigits 10 n with
      | nil => exact absurd digits Nat.toDigits_ne_nil
      | cons first others =>
          have isDigit := allDigits first (by rw [digits]; exact List.mem_cons_self)
          have different : first ≠ '-' := by
            rintro rfl
            exact absurd isDigit (by decide)
          simp [different]
  have unsigned : (if negative = true then
      ((if negative then ['-'] else []) ++ Nat.toDigits 10 n ++ rest).drop 1
      else (if negative then ['-'] else []) ++ Nat.toDigits 10 n ++ rest) =
        Nat.toDigits 10 n ++ rest := by
    cases negative <;> rfl
  simp only [readNumber, sign, unsigned]
  rw [(ends.takeWhile_append allDigits).1, (ends.takeWhile_append allDigits).2, if_neg noPadding]
  simp only [ends.readFraction_eq, ends.readExponent_eq, Option.bind_eq_bind, Option.bind_some,
    absorb_toDigits fits]
  simp only [and_self, if_true, Bool.decide_eq_true]
  cases integer? negative n <;> rfl

/-- The integer is a word of 64 bits, with a sign or without. -/
def FitsWord (n : Int) : Prop := -9223372036854775808 ≤ n ∧ n < 18446744073709551616

theorem toList_toString_nonneg (n : Nat) : (toString (n : Int)).toList = Nat.toDigits 10 n := by
  change (Nat.repr n).toList = _
  rw [Nat.repr, String.toList_ofList]

theorem toList_toString_negSucc (n : Nat) :
    (toString (Int.negSucc n)).toList = '-' :: Nat.toDigits 10 (n + 1) := by
  change ("-" ++ Nat.repr (n + 1)).toList = _
  rw [Nat.repr, String.toList_append]
  exact congrArg ("-".toList ++ ·) String.toList_ofList

theorem readNumber_integer {rest : List Char} (ends : EndsToken rest) {n : Int}
    (fits : FitsWord n) : readNumber ((toString n).toList ++ rest) = some (.integer n, rest) := by
  rcases fits with ⟨notBelow, notAbove⟩
  cases n with
  | ofNat n =>
      change (n : Int) < _ at notAbove
      change readNumber ((toString (n : Int)).toList ++ rest) = _
      rw [toList_toString_nonneg]
      exact readNumber_digits ends false (by omega)
  | negSucc n =>
      rw [toList_toString_negSucc]
      refine (readNumber_digits ends true (by omega)).trans ?_
      rw [integer?, if_neg (by decide), if_pos (by omega)]
      rfl

/-- An integer is written with a digit or a minus in front. -/
theorem exists_toList_toString (n : Int) :
    ∃ c tail, (toString n).toList = c :: tail ∧ (c.isDigit = true ∨ c = '-') := by
  cases n with
  | ofNat n =>
      change ∃ c tail, (toString (n : Int)).toList = c :: tail ∧ _
      rw [toList_toString_nonneg]
      cases digits : Nat.toDigits 10 n with
      | nil => exact absurd digits Nat.toDigits_ne_nil
      | cons first others =>
          have member : first ∈ Nat.toDigits 10 n := digits ▸ List.mem_cons_self
          exact ⟨first, others, rfl,
            .inl (Nat.isDigit_of_mem_toDigits (by decide) (by decide) member)⟩
  | negSucc n => exact ⟨'-', _, toList_toString_negSucc n, .inr rfl⟩

/-! ## Trees -/

/-- A tree that its text gives back: it has at most so many levels of arrays and objects, and its
numbers are integers of 64 bits. -/
inductive Legible : Nat → Json → Prop
  | null {levels} : Legible levels .null
  | boolean {levels truth} : Legible levels (.boolean truth)
  | integer {levels n} (fits : FitsWord n) : Legible levels (.integer n)
  | string {levels text} : Legible levels (.string text)
  | array {levels items} (each : ∀ item ∈ items, Legible levels item) :
      Legible (levels + 1) (.array items)
  | object {levels} {members : List (String × Json)}
      (each : ∀ member ∈ members, Legible levels member.2) :
      Legible (levels + 1) (.object members)

theorem skipSpace_cons {c : Char} (notSpace : isSpace c = false) (rest : List Char) :
    skipSpace (c :: rest) = c :: rest :=
  List.dropWhile_cons_of_neg (by rw [notSpace]; exact Bool.false_ne_true)

theorem isSpace_of_startsNumber {c : Char} (starts : c.isDigit = true ∨ c = '-') :
    isSpace c = false := by
  rw [← Bool.not_eq_true]
  intro space
  simp only [isSpace, Bool.or_eq_true, decide_eq_true_eq] at space
  rcases space with ((rfl | rfl) | rfl) | rfl <;> exact absurd starts (by decide)

theorem readTree_number (levels : Nat) {c : Char} (starts : c.isDigit = true ∨ c = '-')
    (rest : List Char) : readTree levels (c :: rest) = readNumber (c :: rest) := by
  rw [readTree.eq_def, skipSpace_cons (isSpace_of_startsNumber starts)]
  split
  case h_7 => rfl
  all_goals
    next equal =>
      rw [(List.cons.inj equal).1] at starts
      exact absurd starts (by decide)

theorem readTree_string (levels : Nat) (rest : List Char) :
    readTree levels ('"' :: rest) =
      (readString rest).map fun (text, rest) => (.string text, rest) := by
  rw [readTree.eq_def]
  rfl

/-- A text that starts neither with a space nor with the end of an array. -/
def StartsItem (text : List Char) : Prop :=
  ∃ c tail, text = c :: tail ∧ isSpace c = false ∧ c ≠ ']'

theorem StartsItem.append {text : List Char} (starts : StartsItem text) (rest : List Char) :
    StartsItem (text ++ rest) := by
  rcases starts with ⟨c, tail, rfl, free⟩
  exact ⟨c, tail ++ rest, rfl, free⟩

theorem readTree_array (levels : Nat) {text : List Char} (starts : StartsItem text) :
    readTree (levels + 1) ('[' :: text) =
      (readItems (readTree levels) text.length text).map fun (items, rest) =>
        (.array items, rest) := by
  rcases starts with ⟨c, tail, rfl, notSpace, notClosed⟩
  have skipped := skipSpace_cons notSpace tail
  rw [readTree.eq_def, skipSpace_cons rfl]
  simp only [skipped]
  split
  next equal => exact absurd (List.cons.inj equal).1 notClosed
  next => rfl

theorem readTree_object (levels : Nat) {text : List Char} (starts : text.head? = some '"') :
    readTree (levels + 1) ('\x7b' :: text) =
      (readMembers (readTree levels) text.length text).map fun (members, rest) =>
        (.object members, rest) := by
  rcases List.head?_eq_some_iff.mp starts with ⟨tail, rfl⟩
  rw [readTree]
  rfl

namespace Legible

variable {levels : Nat} {json : Json}

theorem startsItem (legible : Legible levels json) : StartsItem json.chars := by
  cases legible with
  | null => exact ⟨'n', _, rfl, rfl, by decide⟩
  | @boolean _ truth =>
      cases truth with
      | false => exact ⟨'f', _, rfl, rfl, by decide⟩
      | true => exact ⟨'t', _, rfl, rfl, by decide⟩
  | @integer _ n fits =>
      rcases exists_toList_toString n with ⟨c, tail, written, starts⟩
      refine ⟨c, tail, written, isSpace_of_startsNumber starts, ?_⟩
      rintro rfl
      exact absurd starts (by decide)
  | string => exact ⟨'"', _, rfl, rfl, by decide⟩
  | array => exact ⟨'[', _, rfl, rfl, by decide⟩
  | object => exact ⟨'\x7b', _, rfl, rfl, by decide⟩

end Legible

/-! ## Items and members -/

theorem StartsItem.itemsChars {item : Json} (starts : StartsItem item.chars)
    (others : List Json) : StartsItem (itemsChars (item :: others)) := by
  cases others with
  | nil => exact starts
  | cons next others => exact starts.append _

theorem length_le_itemsChars {items : List Json}
    (each : ∀ item ∈ items, StartsItem item.chars) : items.length ≤ (itemsChars items).length := by
  induction items with
  | nil => exact Nat.zero_le _
  | cons item others induction =>
      rw [List.forall_mem_cons] at each
      have here : 0 < item.chars.length := by
        rcases each.1 with ⟨c, tail, written, _⟩
        rw [written]
        exact Nat.succ_pos _
      have later := induction each.2
      cases others with
      | nil => exact here
      | cons next others =>
          simp only [itemsChars_cons_cons, List.length_append, List.length_cons] at later ⊢
          omega

theorem head?_membersChars (member : String × Json) (others : List (String × Json))
    (rest : List Char) : (membersChars (member :: others) ++ rest).head? = some '"' := by
  cases others <;> rfl

theorem length_le_membersChars (members : List (String × Json)) :
    members.length ≤ (membersChars members).length := by
  induction members with
  | nil => exact Nat.zero_le _
  | cons member others induction =>
      cases others with
      | nil => exact Nat.succ_le_succ (Nat.zero_le _)
      | cons next others =>
          simp only [membersChars_cons_cons, List.length_append, List.length_cons] at induction ⊢
          omega

theorem readItems_written {read : List Char → Option (Json × List Char)} {items : List Json}
    (nonempty : items ≠ [])
    (each : ∀ item ∈ items, ∀ rest, EndsToken rest →
      read (item.chars ++ rest) = some (item, rest))
    {fuel : Nat} (enough : items.length ≤ fuel) (rest : List Char) :
    readItems read fuel (itemsChars items ++ ']' :: rest) = some (items, rest) := by
  induction items generalizing fuel with
  | nil => exact absurd rfl nonempty
  | cons item others induction =>
      rw [List.forall_mem_cons] at each
      cases fuel with
      | zero => exact absurd enough (Nat.not_succ_le_zero _)
      | succ fuel =>
          cases others with
          | nil =>
              rw [itemsChars, readItems, each.1 _ (.bracket rest)]
              rfl
          | cons next others =>
              have later := induction (List.cons_ne_nil _ _) each.2
                (Nat.le_of_succ_le_succ enough)
              rw [itemsChars_cons_cons, readItems, List.append_assoc, List.cons_append,
                each.1 _ (.comma _)]
              change (readItems read fuel (itemsChars (next :: others) ++ ']' :: rest)).map _ = _
              rw [later]
              rfl

/-- One member is read, and what follows it decides whether there are more. -/
theorem readMembers_stringChars (read : List Char → Option (Json × List Char)) (fuel : Nat)
    (name : String) (text : List Char) :
    readMembers read (fuel + 1) (stringChars name ++ ':' :: text) =
      (read text).bind fun (member, rest) =>
        match skipSpace rest with
        | '\x7d' :: rest => some ([(name, member)], rest)
        | ',' :: rest =>
            (readMembers read fuel rest).map fun (members, rest) =>
              ((name, member) :: members, rest)
        | _ => none := by
  have opened : stringChars name ++ ':' :: text =
      '"' :: (name.toList.flatMap escapedChar ++ '"' :: ':' :: text) := by
    rw [stringChars, List.append_assoc, List.cons_append]
    rfl
  rw [opened, readMembers]
  change ((readString _).bind _) = _
  rw [readString_written]
  rfl

theorem readMembers_written {read : List Char → Option (Json × List Char)}
    {members : List (String × Json)} (nonempty : members ≠ [])
    (each : ∀ member ∈ members, ∀ rest, EndsToken rest →
      read (member.2.chars ++ rest) = some (member.2, rest))
    {fuel : Nat} (enough : members.length ≤ fuel) (rest : List Char) :
    readMembers read fuel (membersChars members ++ '\x7d' :: rest) = some (members, rest) := by
  induction members generalizing fuel with
  | nil => exact absurd rfl nonempty
  | cons member others induction =>
      rw [List.forall_mem_cons] at each
      cases fuel with
      | zero => exact absurd enough (Nat.not_succ_le_zero _)
      | succ fuel =>
          cases others with
          | nil =>
              rw [membersChars, List.append_assoc, List.cons_append, readMembers_stringChars,
                each.1 _ (.brace rest)]
              rfl
          | cons next others =>
              have later := induction (List.cons_ne_nil _ _) each.2
                (Nat.le_of_succ_le_succ enough)
              rw [membersChars_cons_cons, List.append_assoc, List.append_assoc, List.cons_append,
                List.cons_append, readMembers_stringChars, each.1 _ (.comma _)]
              change (readMembers read fuel (membersChars (next :: others) ++ '\x7d' :: rest)).map
                _ = _
              rw [later]
              rfl

/-! ## Texts -/

/-- A legible tree is read back from its text, up to where the text goes on. -/
theorem readTree_chars {levels : Nat} {json : Json} (legible : Legible levels json)
    {rest : List Char} (ends : EndsToken rest) :
    readTree levels (json.chars ++ rest) = some (json, rest) := by
  induction legible generalizing rest with
  | null =>
      rw [readTree.eq_def]
      rfl
  | @boolean _ truth =>
      rw [readTree.eq_def]
      cases truth <;> rfl
  | @integer _ n fits =>
      rcases exists_toList_toString n with ⟨c, tail, written, starts⟩
      have read := readNumber_integer ends fits
      rw [written] at read
      rw [chars, written]
      exact (readTree_number _ starts _).trans read
  | @string _ text =>
      rw [chars, stringChars, List.append_assoc, List.cons_append, readTree_string]
      exact congrArg (Option.map _) (readString_written text rest)
  | @array levels items each induction =>
      rw [chars, List.cons_append, List.cons_append, List.append_assoc]
      cases items with
      | nil =>
          rw [readTree]
          rfl
      | cons item others =>
          have starts := (each item List.mem_cons_self).startsItem.itemsChars others
          have enough : (item :: others).length ≤
              (itemsChars (item :: others) ++ ([']'] ++ rest)).length := by
            rw [List.length_append]
            exact Nat.le_add_right_of_le
              (length_le_itemsChars fun item member => (each item member).startsItem)
          rw [readTree_array levels (starts.append _)]
          exact congrArg (Option.map _) (readItems_written (List.cons_ne_nil _ _)
            (fun item member _ => induction item member) enough rest)
  | @object levels members each induction =>
      rw [chars, List.cons_append, List.cons_append, List.append_assoc]
      cases members with
      | nil =>
          rw [readTree]
          rfl
      | cons member others =>
          have enough : (member :: others).length ≤
              (membersChars (member :: others) ++ (['\x7d'] ++ rest)).length := by
            rw [List.length_append]
            exact Nat.le_add_right_of_le (length_le_membersChars _)
          rw [readTree_object levels (head?_membersChars member others _)]
          exact congrArg (Option.map _) (readMembers_written (List.cons_ne_nil _ _)
            (fun member isMember _ => induction member isMember) enough rest)

/-- Reading the compact text of a legible tree gives that tree. -/
theorem parse?_text {json : Json} (legible : Legible greatestDepth json) :
    parse? json.text = some json := by
  have ends : EndsToken [] := trivial
  have read := readTree_chars legible ends
  rw [List.append_nil] at read
  rw [parse?, text, String.toList_ofList, read]
  rfl

end ValueSchema.Json
