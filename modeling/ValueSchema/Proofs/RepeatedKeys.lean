import ValueSchema.Proofs.ArrivedEntries
import ValueSchema.Proofs.SharedData
import ValueSchema.Proofs.VerifiedValues

/-! # Repeated keys

Entries whose keys arrive more than once are merged: a key stays where it came first and keeps
what came with it last. Objects made from pairs, data that is read and data that is converted
are all merged in this way, and keys that are written alike count as the same key.
-/

namespace ValueSchema

/-! ## Merged entries -/

namespace Entries

variable {α : Type} {pairs fields : List (String × α)}

/-- Each name of the pairs is there once, in the order of first arrivals, with the value that
arrived last. -/
structure Merges (pairs fields : List (String × α)) : Prop where
  names_eq : names fields = (names pairs).eraseDups
  find?_eq : ∀ name, find? fields name = find? pairs.reverse name

theorem merges_ofList (pairs : List (String × α)) : Merges pairs (ofList pairs) :=
  ⟨names_ofList pairs, find?_ofList pairs⟩

/-- Entries with distinct names are known by the order of these and by what is found. -/
theorem eq_of_find?_eq {others : List (String × α)} (distinct : (names fields).Nodup)
    (sameNames : names fields = names others)
    (sameFound : ∀ name, find? fields name = find? others name) : fields = others := by
  induction fields generalizing others with
  | nil => exact (List.map_eq_nil_iff.mp sameNames.symm).symm
  | cons field rest induction =>
      cases others with
      | nil => cases sameNames
      | cons other otherRest =>
          obtain ⟨name, value⟩ := field
          obtain ⟨otherName, otherValue⟩ := other
          rw [names_cons, names_cons, List.cons.injEq] at sameNames
          rcases sameNames with ⟨rfl, sameRest⟩
          rw [names_cons, List.nodup_cons] at distinct
          have sameValue : value = otherValue := by simpa [find?] using sameFound name
          -- The first name is not found behind its entry, so a look-up of it does not tell the
          -- rests apart; a look-up of any other name passes by the first entry.
          have restFound : ∀ other, find? rest other = find? otherRest other := by
            intro other
            by_cases first : name = other
            · subst first
              rw [(find?_eq_none_iff rest name).mpr distinct.1,
                (find?_eq_none_iff otherRest name).mpr (sameRest ▸ distinct.1)]
            · simpa [find?, first] using sameFound other
          rw [sameValue, induction distinct.2 sameRest restFound]

/-- There is one way to merge. -/
theorem Merges.eq_ofList (merges : Merges pairs fields) : fields = ofList pairs := by
  have sameNames : names fields = names (ofList pairs) :=
    merges.names_eq.trans (names_ofList pairs).symm
  apply eq_of_find?_eq (sameNames ▸ nodup_names_ofList pairs) sameNames
  intro name
  rw [merges.find?_eq, find?_ofList]

end Entries

/-! ## Plain values -/

namespace Value

/-- Neither undefined nor a date nor a file nor a zero with a sign. -/
def isPlainPart : Value → Bool
  | .undefined | .date _ | .file _ => false
  | .number n => n ≠ .negativeZero
  | _ => true

/-- Made of null, booleans, numbers, strings, arrays and objects alone, and of no zero with a
sign. -/
structure Plain (value : Value) : Prop where
  wellFormed : value.WellFormed
  parts : value.Everywhere (·.isPlainPart)

instance (value : Value) : Decidable value.Plain :=
  decidable_of_iff (value.WellFormed ∧ value.Everywhere (·.isPlainPart))
    ⟨fun plain => ⟨plain.1, plain.2⟩, fun plain => ⟨plain.wellFormed, plain.parts⟩⟩

theorem shared_toData {value : Value} (parts : value.Everywhere (·.isPlainPart)) :
    value.toData.Shared := by
  induction value with
  | undefined => exact .unit
  | null => exact .unit
  | boolean truth => exact .boolean
  | number n =>
      rw [toData, Binary64.toData]
      cases n.toSmallInt? with
      | none => exact .float
      | some whole => exact .signed
  | string text => exact .string
  | date instant => cases parts.here
  | file upload => cases parts.here
  | array items induction =>
      have within := (Everywhere.array_iff.mp parts).2
      rw [toData, itemsToData_eq_map]
      apply Data.Shared.sequence
      rw [List.forall_mem_map]
      intro item member
      exact induction item member (within item member)
  | object entries induction =>
      have within := (Everywhere.object_iff.mp parts).2
      rw [toData, entriesToData_eq_map]
      apply Data.Shared.map
      · rw [List.forall_mem_map]
        intro entry kept
        exact .string
      · rw [List.forall_mem_map]
        intro entry kept
        have member := (List.mem_filter.mp kept).1
        exact induction entry member (within entry member)

namespace Plain

variable {value : Value}

theorem normal_eq (plain : value.Plain) : value.normal = value := by
  have defined : value.Everywhere (·.isUndefined = false) := by
    refine plain.parts.imp fun part partPlain => ?_
    cases part with
    | undefined => cases partPlain
    | _ => rfl
  have unsigned : value.Everywhere (·.isNegativeZero = false) := by
    refine plain.parts.imp fun part partPlain => ?_
    cases part with
    | number n => simpa [isPlainPart, isNegativeZero] using partPlain
    | _ => rfl
  exact normal_eq_self defined unsigned

theorem toValue_toData (plain : value.Plain) : value.toData.toValue = .ok value := by
  have neither : value.Everywhere fun part =>
      part.hasFourDigitYear = true ∧ part.hasClockTime = true ∧ part.hasNumericSize = true := by
    refine plain.parts.imp fun part partPlain => ?_
    cases part with
    | date instant => cases partPlain
    | file upload => cases partPlain
    | _ => exact ⟨rfl, rfl, rfl⟩
  have years := neither.imp fun _ demands => demands.1
  have times := neither.imp fun _ demands => demands.2.1
  have sizes := neither.imp fun _ demands => demands.2.2
  rw [toValue_toData_of_clockTimes plain.wellFormed years times sizes, plain.normal_eq]

theorem meaning_toData (plain : value.Plain) : value.toData.meaning = value := by
  have converted := (shared_toData plain.parts).toValue_eq
  rw [plain.toValue_toData, Except.ok.injEq] at converted
  exact converted.symm

end Plain

end Value

namespace Data

/-! ## Pairs handed over -/

section

variable {pairs : List (String × Value)}

/-- The map with the pairs for its entries. -/
def ofPairs (pairs : List (String × Value)) : Data :=
  .map (pairs.map fun pair => (.string pair.1, pair.2.toData))

theorem shared_ofPairs (plain : ∀ pair ∈ pairs, pair.2.Plain) : (ofPairs pairs).Shared := by
  apply Shared.map
  · rw [List.forall_mem_map]
    intro pair member
    exact .string
  · rw [List.forall_mem_map]
    intro pair member
    exact Value.shared_toData (plain pair member).parts

theorem meaning_ofPairs (plain : ∀ pair ∈ pairs, pair.2.Plain) :
    (ofPairs pairs).meaning = .ofPairs pairs := by
  have unchanged : ∀ pair ∈ pairs, (pair.1, pair.2.toData.meaning) = pair := by
    intro pair member
    rw [(plain pair member).meaning_toData]
  have samePairs : entriesMeaning (pairs.map fun pair => (.string pair.1, pair.2.toData)) =
      pairs := by
    rw [entriesMeaning_eq_map, List.map_map]
    exact (List.map_congr_left unchanged).trans pairs.map_id
  rw [ofPairs, meaning, samePairs]

/-- Whether pairs make an object, are read from a map or are converted from one, they are merged
alike. -/
theorem exists_merged_of_plain (plain : ∀ pair ∈ pairs, pair.2.Plain) :
    ∃ fields, Entries.Merges pairs fields ∧ Value.ofPairs pairs = .object fields ∧
      (ofPairs pairs).readValue = .ok (.object fields) ∧
      (ofPairs pairs).toValue = .ok (.object fields) := by
  have shared := shared_ofPairs plain
  have meant := meaning_ofPairs plain
  refine ⟨Entries.ofList pairs, Entries.merges_ofList pairs, rfl, ?_, ?_⟩
  · rw [shared.readValue_eq, meant, Value.ofPairs]
  · rw [shared.toValue_eq, meant, Value.ofPairs]

end

/-! ## Entries of any data -/

section

variable {entries : List (Data × Data)} {nameOf : Data → String} {valueOf : Data → Value}

theorem exists_merged_of_read
    (names : ∀ entry ∈ entries, entry.1.readString = .ok (nameOf entry.1))
    (values : ∀ entry ∈ entries, entry.2.readValue = .ok (valueOf entry.2)) :
    ∃ fields,
      Entries.Merges (entries.map fun entry => (nameOf entry.1, valueOf entry.2)) fields ∧
      (map entries).readValue = .ok (.object fields) := by
  refine ⟨_, Entries.merges_ofList _, ?_⟩
  rw [readValue, readEntries_eq_mapM, mapM_entries_eq_ok names values]
  rfl

theorem exists_merged_of_converted
    (names : ∀ entry ∈ entries, entry.1.toKey = .ok (nameOf entry.1))
    (values : ∀ entry ∈ entries, entry.2.toValue = .ok (valueOf entry.2)) :
    ∃ fields,
      Entries.Merges (entries.map fun entry => (nameOf entry.1, valueOf entry.2)) fields ∧
      (map entries).toValue = .ok (.object fields) := by
  refine ⟨_, Entries.merges_ofList _, ?_⟩
  rw [toValue, entriesToPairs_eq_mapM, mapM_entries_eq_ok names values]
  rfl

end

/-! ## Keys that are written as texts -/

/-- A key that is a text, a single character, a variant or an integer of any width. -/
inductive WrittenKey where
  | string (text : String)
  | char (c : Char)
  | unitVariant (variant : String)
  | signed (n : Int64)
  | unsigned (n : UInt64)
  | wideSigned (n : Int)
  | wideUnsigned (n : Nat)

namespace WrittenKey

def toData : WrittenKey → Data
  | .string text => .string text
  | .char c => .char c
  | .unitVariant variant => .unitVariant variant
  | .signed n => .signed n
  | .unsigned n => .unsigned n
  | .wideSigned n => .wideSigned n
  | .wideUnsigned n => .wideUnsigned n

/-- Variants are written by their names and integers in decimal digits. -/
def written : WrittenKey → String
  | .string text => text
  | .char c => String.singleton c
  | .unitVariant variant => variant
  | .signed n => toString n.toInt
  | .unsigned n => toString n.toNat
  | .wideSigned n => toString n
  | .wideUnsigned n => toString n

/-- Integers of more than 64 bits are refused. -/
def refusal? : WrittenKey → Option ConversionFault
  | .wideSigned _ => some .wideSignedKey
  | .wideUnsigned _ => some .wideUnsignedKey
  | _ => none

variable {key : WrittenKey}

theorem toKey_toData (taken : key.refusal? = none) : key.toData.toKey = .ok key.written := by
  cases key with
  | wideSigned n => cases taken
  | wideUnsigned n => cases taken
  | _ => rfl

theorem toKey_eq_error {fault : ConversionFault} (refused : key.refusal? = some fault) :
    key.toData.toKey = .error fault := by
  cases key with
  | wideSigned n =>
      cases refused
      rfl
  | wideUnsigned n =>
      cases refused
      rfl
  | _ => cases refused

end WrittenKey

/-- The map with the keys as they are. -/
def keyedMap (entries : List (WrittenKey × Data)) : Data :=
  .map (entries.map fun entry => (entry.1.toData, entry.2))

/-- The map with the texts in place of the keys. -/
def textMap (entries : List (WrittenKey × Data)) : Data :=
  .map (entries.map fun entry => (.string entry.1.written, entry.2))

section

variable {entries : List (WrittenKey × Data)}

/-- Also where a value cannot be converted, the keys and their texts fare alike. -/
theorem toValue_keyedMap (taken : ∀ entry ∈ entries, entry.1.refusal? = none) :
    (keyedMap entries).toValue = (textMap entries).toValue := by
  have samePairs : entriesToPairs (entries.map fun entry => (entry.1.toData, entry.2)) =
      entriesToPairs (entries.map fun entry => (.string entry.1.written, entry.2)) := by
    induction entries with
    | nil => rfl
    | cons entry rest induction =>
        rw [List.forall_mem_cons] at taken
        rw [List.map_cons, List.map_cons, entriesToPairs, entriesToPairs, induction taken.2,
          WrittenKey.toKey_toData taken.1, toKey]
  rw [keyedMap, textMap, toValue, toValue, samePairs]

/-- Keys that are written alike are merged as one, whatever sorts they are of. -/
theorem exists_merged_of_written (taken : ∀ entry ∈ entries, entry.1.refusal? = none)
    {valueOf : Data → Value}
    (converted : ∀ entry ∈ entries, entry.2.toValue = .ok (valueOf entry.2)) :
    ∃ fields,
      Entries.Merges (entries.map fun entry => (entry.1.written, valueOf entry.2)) fields ∧
      (keyedMap entries).toValue = .ok (.object fields) := by
  have texts : ∀ entry ∈ entries.map fun entry => (Data.string entry.1.written, entry.2),
      entry.1.toKey = .ok entry.1.meantName := by
    rw [List.forall_mem_map]
    intro entry member
    rfl
  have values : ∀ entry ∈ entries.map fun entry => (Data.string entry.1.written, entry.2),
      entry.2.toValue = .ok (valueOf entry.2) := by
    rw [List.forall_mem_map]
    exact converted
  have merged := exists_merged_of_converted texts values
  rw [List.map_map] at merged
  rw [toValue_keyedMap taken]
  exact merged

end

/-! ## Keys that are refused -/

theorem entriesToPairs_of_refused {key : Data} {fault : ConversionFault}
    (refused : key.toKey = .error fault) (before after : List (Data × Data)) (value : Data) :
    entriesToPairs (before ++ (key, value) :: after) =
      (entriesToPairs before).bind fun _ => .error fault := by
  induction before with
  | nil =>
      simp only [List.nil_append, entriesToPairs, refused]
      rfl
  | cons entry rest induction =>
      obtain ⟨present, first⟩ := entry
      rw [List.cons_append, entriesToPairs, entriesToPairs, induction]
      cases present.toKey with
      | error earlier => rfl
      | ok name =>
          cases first.toValue with
          | error earlier => rfl
          | ok converted => cases entriesToPairs rest <;> rfl

/-- A key that is refused ends the conversion, if nothing before it does. -/
theorem toValue_map_of_refused {key : Data} {fault : ConversionFault}
    (refused : key.toKey = .error fault) (before after : List (Data × Data)) (value : Data) :
    (map (before ++ (key, value) :: after)).toValue =
      (map before).toValue.bind fun _ => .error fault := by
  rw [toValue, toValue, entriesToPairs_of_refused refused]
  cases entriesToPairs before <;> rfl

theorem isOk_toValue_keyedMap_eq_false {entries : List (WrittenKey × Data)}
    {entry : WrittenKey × Data} {fault : ConversionFault} (member : entry ∈ entries)
    (refused : entry.1.refusal? = some fault) : (keyedMap entries).toValue.isOk = false := by
  rcases List.append_of_mem member with ⟨before, after, rfl⟩
  rw [keyedMap, List.map_append, List.map_cons,
    toValue_map_of_refused (WrittenKey.toKey_eq_error refused)]
  cases (map (before.map fun entry => (entry.1.toData, entry.2))).toValue <;> rfl

/-- A map that converts with texts for keys converts alike with the keys themselves exactly when
none of them is refused. -/
theorem toValue_keyedMap_eq_iff {entries : List (WrittenKey × Data)}
    (converts : (textMap entries).toValue.isOk = true) :
    (keyedMap entries).toValue = (textMap entries).toValue ↔
      ∀ entry ∈ entries, entry.1.refusal? = none := by
  -- A refused key makes the conversion fail, which the texts do not.
  constructor
  · intro same entry member
    cases refusal : entry.1.refusal? with
    | none => rfl
    | some fault =>
        have fails := isOk_toValue_keyedMap_eq_false member refusal
        rw [same, converts] at fails
        cases fails
  · exact toValue_keyedMap

/-! ## Keys and values handed over apart -/

/-- One call for each key and, right after it, one for its value. -/
def pairedCalls (entries : List (Data × Data)) : List (MapPart × Data) :=
  entries.flatMap fun entry => [(.key, entry.1), (.value, entry.2)]

theorem callsToPairs_pairedCalls (entries : List (Data × Data)) :
    callsToPairs none (pairedCalls entries) = entriesToPairs entries := by
  induction entries with
  | nil => rfl
  | cons entry rest induction =>
      obtain ⟨key, value⟩ := entry
      have split : pairedCalls ((key, value) :: rest) =
          (.key, key) :: (.value, value) :: pairedCalls rest := rfl
      rw [split, callsToPairs, entriesToPairs]
      simp only [callsToPairs, induction]

theorem toValue_pairedCalls (entries : List (Data × Data)) :
    (mapCalls (pairedCalls entries)).toValue = (map entries).toValue := by
  rw [toValue, toValue, callsToPairs_pairedCalls]

/-! ## One rule -/

/-- Each key stays where it came first, with the plain value that came with it last: in an object
made from pairs, in one that is read and in one that is converted, in calls for entries or for
their halves. Keys that are written as texts are converted as these texts and merged with them,
but for integers of more than 64 bits, which end the conversion. -/
theorem repeated_keys_merge (pairs : List (String × Value)) (entries : List (WrittenKey × Data)) :
    ((∀ pair ∈ pairs, pair.2.Plain) →
      ∃ fields, Entries.Merges pairs fields ∧ Value.ofPairs pairs = .object fields ∧
        (ofPairs pairs).readValue = .ok (.object fields) ∧
        (ofPairs pairs).toValue = .ok (.object fields)) ∧
    (∀ (entries : List (Data × Data)) (nameOf : Data → String) (valueOf : Data → Value),
      (∀ entry ∈ entries, entry.1.readString = .ok (nameOf entry.1)) →
      (∀ entry ∈ entries, entry.2.readValue = .ok (valueOf entry.2)) →
        ∃ fields,
          Entries.Merges (entries.map fun entry => (nameOf entry.1, valueOf entry.2)) fields ∧
          (map entries).readValue = .ok (.object fields)) ∧
    ((∀ entry ∈ entries, entry.1.refusal? = none) →
      (keyedMap entries).toValue = (textMap entries).toValue ∧
      ∀ valueOf : Data → Value, (∀ entry ∈ entries, entry.2.toValue = .ok (valueOf entry.2)) →
        ∃ fields,
          Entries.Merges (entries.map fun entry => (entry.1.written, valueOf entry.2)) fields ∧
          (keyedMap entries).toValue = .ok (.object fields)) ∧
    ((textMap entries).toValue.isOk = true →
      ((keyedMap entries).toValue = (textMap entries).toValue ↔
        ∀ entry ∈ entries, entry.1.refusal? = none)) ∧
    (∀ (key : WrittenKey) (fault : ConversionFault), key.refusal? = some fault →
      ∀ (before after : List (Data × Data)) (value : Data),
        (map (before ++ (key.toData, value) :: after)).toValue =
          (map before).toValue.bind fun _ => .error fault) ∧
    ∀ entries, (mapCalls (pairedCalls entries)).toValue = (map entries).toValue := by
  refine ⟨exists_merged_of_plain, ?_, ?_, toValue_keyedMap_eq_iff, ?_, toValue_pairedCalls⟩
  · intro entries nameOf valueOf names values
    exact exists_merged_of_read names values
  · intro taken
    constructor
    · exact toValue_keyedMap taken
    · intro valueOf converted
      exact exists_merged_of_written taken converted
  · intro key fault refused
    exact toValue_map_of_refused (WrittenKey.toKey_eq_error refused)

private def visits : List (String × Value) :=
  [("oslo", .number .zero), ("bern", .null),
   ("oslo", .object [("nights", .array [.number .nan, .boolean true])])]

private def scores : List (WrittenKey × Data) :=
  [(.signed 7, .string "seven"), (.char 'a', .absent), (.unsigned 7, .wideSigned 0),
   (.string "7", .present (.boolean true)), (.unitVariant "a", .bytes [])]

theorem visits_and_scores_merge :
    (∀ pair ∈ visits, pair.2.Plain) ∧
    (ofPairs visits).readValue = .ok (.object
      [("oslo", .object [("nights", .array [.number .nan, .boolean true])]), ("bern", .null)]) ∧
    (∀ entry ∈ scores, entry.1.refusal? = none) ∧
    (∀ entry ∈ scores, entry.2.toValue = .ok entry.2.meaning) ∧
    (keyedMap scores).toValue = .ok (.object [("7", .boolean true), ("a", .array [])]) ∧
    (WrittenKey.wideUnsigned 7).refusal? = some .wideUnsignedKey ∧
    (map [(.string "7", .unit), ((WrittenKey.wideUnsigned 7).toData, .unit)]).toValue =
      .error .wideUnsignedKey := by
  have plain : ∀ pair ∈ visits, pair.2.Plain := by decide
  have taken : ∀ entry ∈ scores, entry.1.refusal? = none := by decide
  have converted : ∀ entry ∈ scores, entry.2.toValue = .ok entry.2.meaning := by
    simp only [scores, List.forall_mem_cons]
    exact ⟨rfl, rfl, rfl, rfl, rfl, List.forall_mem_nil _⟩
  rcases repeated_keys_merge visits scores with ⟨merged, _, written, _, ends, _⟩
  rcases merged plain with ⟨stays, staysMerged, _, read, _⟩
  rcases (written taken).2 meaning converted with ⟨points, pointsMerged, pointsConverted⟩
  have refused := ends (.wideUnsigned 7) .wideUnsignedKey rfl [(.string "7", .unit)] [] .unit
  rw [staysMerged.eq_ofList] at read
  rw [pointsMerged.eq_ofList] at pointsConverted
  exact ⟨plain, read, taken, converted, pointsConverted, rfl, refused⟩

/-- An integer of 128 bits is refused as a key although its digits are taken. -/
theorem wide_key_differs_from_its_text :
    (keyedMap [(.wideSigned 5, .string "v")]).toValue = .error .wideSignedKey ∧
    (textMap [(.wideSigned 5, .string "v")]).toValue = .ok (.object [("5", .string "v")]) ∧
    (keyedMap [(.wideSigned 5, .string "v")]).toValue ≠
      (textMap [(.wideSigned 5, .string "v")]).toValue := by
  refine ⟨rfl, rfl, ?_⟩
  intro same
  cases same

end Data

end ValueSchema
