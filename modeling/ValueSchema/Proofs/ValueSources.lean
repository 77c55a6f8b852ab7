import ValueSchema.Proofs.DataInduction
import ValueSchema.Proofs.ValueTree

/-! # Sources of values

A converted value is followed back into the data that was handed over. Dates and files come from
the structs that stand for them and from nothing else, and nothing makes a part undefined. Reading
knows no such structs, so what is read holds neither dates nor files.
-/

namespace ValueSchema

/-- The value is of a kind that comes about without a reserved struct. -/
def Value.isOrdinary : Value → Bool
  | .undefined | .date _ | .file _ => false
  | _ => true

namespace Data

/-! ## Data inside data -/

/-- The parts that become values, one level down. Keys become names only. -/
def children : Data → List Data
  | .present inner | .newtypeStruct _ inner | .newtypeVariant _ inner => [inner]
  | .tupleVariant _ items | .sequence items => items
  | .structVariant _ fields | .struct _ fields => fields.map Prod.snd
  | .map entries => entries.map Prod.snd
  | .mapCalls calls => (calls.filter fun call => call.1 = .value).map Prod.snd
  | _ => []

/-- The part is the data itself or lies inside it, at any depth. -/
inductive Within (part : Data) : Data → Prop
  | self : Within part part
  | inside {data child} (member : child ∈ data.children) (within : Within part child) :
      Within part data

/-! ## Made values -/

/-- What comes about when the data is converted. A date or a file is what a struct that stands for
one is converted to, and that struct lies within the data. -/
inductive Makes (data : Data) : Value → Prop
  | ordinary {value} (ordinary : value.isOrdinary = true)
      (distinct : value.hasDistinctNames = true) : Makes data value
  | date {inner instant} (source : (newtypeStruct dateStructName inner).Within data)
      (converted : (newtypeStruct dateStructName inner).toValue = .ok (.date instant)) :
      Makes data (.date instant)
  | file {fields upload} (source : (struct fileStructName fields).Within data)
      (converted : (struct fileStructName fields).toValue = .ok (.file upload)) :
      Makes data (.file upload)

namespace Makes

variable {data child : Data} {value : Value}

theorem of_child (member : child ∈ data.children) (makes : child.Makes value) :
    data.Makes value := by
  cases makes with
  | ordinary ordinary distinct => exact .ordinary ordinary distinct
  | date source converted => exact .date (.inside member source) converted
  | file source converted => exact .file (.inside member source) converted

theorem everywhere_of_child (member : child ∈ data.children)
    (makes : value.Everywhere child.Makes) : value.Everywhere data.Makes :=
  makes.imp fun _ part => part.of_child member

theorem everywhere_array {items : List Value} (each : ∀ item ∈ items, item.Everywhere data.Makes) :
    (Value.array items).Everywhere data.Makes :=
  Value.Everywhere.array_iff.mpr ⟨.ordinary rfl rfl, each⟩

theorem everywhere_ofPairs {pairs : List (String × Value)}
    (each : ∀ pair ∈ pairs, pair.2.Everywhere data.Makes) :
    (Value.ofPairs pairs).Everywhere data.Makes :=
  Value.Everywhere.object_iff.mpr
    ⟨.ordinary rfl (decide_eq_true (Entries.nodup_names_ofList pairs)),
      fun entry member => each entry (Entries.mem_of_mem_ofList member)⟩

/-- An object of one entry, which is how a variant is converted. -/
theorem everywhere_single (name : String) (makes : value.Everywhere data.Makes) :
    (Value.object [(name, value)]).Everywhere data.Makes :=
  everywhere_ofPairs (List.forall_mem_singleton (a := (name, value)).mpr makes)

end Makes

/-! ## Conversion -/

/-- Whatever text is read, a clock shows the moment. -/
theorem onClock_of_read {text : String} {instant : Instant}
    (read : Rfc3339.read text = .ok instant) : instant.OnClock := by
  rw [Rfc3339.read] at read
  split at read
  next => cases read
  next =>
    rcases Except.bind_eq_ok_iff.mp read with ⟨⟨date, rest⟩, _, read⟩
    rcases Except.bind_eq_ok_iff.mp read with ⟨rest, _, read⟩
    rcases Except.bind_eq_ok_iff.mp read with ⟨⟨⟨clock, nanoseconds⟩, rest⟩, _, read⟩
    rcases Except.bind_eq_ok_iff.mp read with ⟨⟨offset, rest⟩, _, read⟩
    dsimp only at read
    split at read
    next => cases read
    next =>
      split at read
      next => cases read
      next =>
        split at read
        next made =>
          cases read
          exact (Instant.ofParts?_eq_some_iff.mp made).1
        next => cases read

theorem exists_instant_of_dateOfValue {inner value : Value}
    (converted : dateOfValue inner = .ok value) :
    ∃ instant, value = .date instant ∧ instant.OnClock := by
  cases inner with
  | string text =>
      rw [dateOfValue] at converted
      cases read : Rfc3339.read text with
      | ok instant =>
          rw [read] at converted
          cases converted
          exact ⟨instant, rfl, onClock_of_read read⟩
      | error fault =>
          rw [read] at converted
          cases converted
  | _ => cases converted

/-- The size of a file is read off a number. -/
theorem exists_size_of_fileOfEntries {entries : List (String × Value)} {value : Value}
    (converted : fileOfEntries entries = .ok value) :
    ∃ mime size, value =
      .file ⟨(Entries.find? entries "name").bind Value.string?, mime, Binary64.toWord size⟩ := by
  rw [fileOfEntries] at converted
  split at converted
  next => cases converted
  next mime _ =>
    split at converted
    next => cases converted
    next size _ =>
      cases converted
      exact ⟨mime, size, rfl⟩

/-- Every part of a converted value is made by the data that was handed over. -/
theorem makes_of_toValue {data : Data} {value : Value} (converted : data.toValue = .ok value) :
    value.Everywhere data.Makes := by
  induction data generalizing value with
  | bytes encoded =>
      cases converted
      refine Makes.everywhere_array (List.forall_mem_map.mpr fun byte _ => ?_)
      exact (Value.Everywhere.simple_iff rfl).mpr (.ordinary rfl rfl)
  | present inner induction =>
      exact Makes.everywhere_of_child List.mem_cons_self (induction converted)
  | newtypeStruct name inner induction =>
      by_cases isDate : name = dateStructName
      · subst isDate
        rcases Except.bind_eq_ok_iff.mp ((if_pos rfl).symm.trans converted) with
          ⟨text, _, finished⟩
        rcases exists_instant_of_dateOfValue finished with ⟨instant, rfl, _⟩
        exact (Value.Everywhere.simple_iff rfl).mpr (.date .self converted)
      · rw [toValue, if_neg isDate] at converted
        exact Makes.everywhere_of_child List.mem_cons_self (induction converted)
  | newtypeVariant variant inner induction =>
      rcases Except.map_eq_ok_iff.mp converted with ⟨value, innerConverted, rfl⟩
      exact Makes.everywhere_single variant
        (Makes.everywhere_of_child List.mem_cons_self (induction innerConverted))
  | tupleVariant variant items induction =>
      rcases Except.map_eq_ok_iff.mp converted with ⟨values, itemsConverted, rfl⟩
      refine Makes.everywhere_single variant (Makes.everywhere_array ?_)
      exact forall_of_itemsToValues itemsConverted fun item member _ itemConverted =>
        Makes.everywhere_of_child member (induction item member itemConverted)
  | structVariant variant fields induction =>
      rcases Except.map_eq_ok_iff.mp converted with ⟨pairs, fieldsConverted, rfl⟩
      refine Makes.everywhere_single variant (Makes.everywhere_ofPairs ?_)
      exact forall_of_fieldsToPairs fieldsConverted fun field member _ fieldConverted =>
        Makes.everywhere_of_child (List.mem_map_of_mem member)
          (induction field member fieldConverted)
  | sequence items induction =>
      rcases Except.map_eq_ok_iff.mp converted with ⟨values, itemsConverted, rfl⟩
      refine Makes.everywhere_array ?_
      exact forall_of_itemsToValues itemsConverted fun item member _ itemConverted =>
        Makes.everywhere_of_child member (induction item member itemConverted)
  | map entries induction =>
      rcases Except.map_eq_ok_iff.mp converted with ⟨pairs, entriesConverted, rfl⟩
      refine Makes.everywhere_ofPairs ?_
      exact forall_of_entriesToPairs entriesConverted fun entry member _ entryConverted =>
        Makes.everywhere_of_child (List.mem_map_of_mem member)
          ((induction entry member).2 entryConverted)
  | mapCalls calls induction =>
      rcases Except.map_eq_ok_iff.mp converted with ⟨pairs, callsConverted, rfl⟩
      refine Makes.everywhere_ofPairs ?_
      refine forall_of_callsToPairs callsConverted fun entry member _ entryConverted => ?_
      have isChild : entry ∈ (mapCalls calls).children :=
        List.mem_map.mpr ⟨_, List.mem_filter.mpr ⟨member, rfl⟩, rfl⟩
      exact Makes.everywhere_of_child isChild (induction _ member entryConverted)
  | struct name fields induction =>
      rcases Except.bind_eq_ok_iff.mp converted with ⟨pairs, fieldsConverted, finished⟩
      by_cases isFile : name = fileStructName
      · subst isFile
        rcases exists_size_of_fileOfEntries ((if_pos rfl).symm.trans finished) with
          ⟨mime, size, rfl⟩
        exact (Value.Everywhere.simple_iff rfl).mpr (.file .self converted)
      · cases (if_neg isFile).symm.trans finished
        refine Makes.everywhere_ofPairs ?_
        exact forall_of_fieldsToPairs fieldsConverted fun field member _ fieldConverted =>
          Makes.everywhere_of_child (List.mem_map_of_mem member)
            (induction field member fieldConverted)
  | failure message => cases converted
  | _ =>
      cases converted
      exact (Value.Everywhere.simple_iff rfl).mpr (.ordinary rfl rfl)

/-! ## Reading -/

/-- Reading makes no use of reserved structs. -/
theorem ordinary_of_readValue {data : Data} {value : Value} (read : data.readValue = .ok value) :
    value.Everywhere (·.isOrdinary) := by
  induction data generalizing value with
  | present inner induction => exact induction read
  | sequence items induction =>
      rcases Except.map_eq_ok_iff.mp read with ⟨values, itemsRead, rfl⟩
      rw [readItems_eq_mapM] at itemsRead
      exact Value.Everywhere.array_iff.mpr ⟨rfl, forall_of_mapM itemsRead induction⟩
  | map entries induction =>
      rcases Except.map_eq_ok_iff.mp read with ⟨pairs, entriesRead, rfl⟩
      rw [readEntries_eq_mapM] at entriesRead
      have each := forall_of_mapM_entries entriesRead fun entry member =>
        (induction entry member).2
      exact Value.Everywhere.object_iff.mpr
        ⟨rfl, fun entry member => each entry (Entries.mem_of_mem_ofList member)⟩
  | struct name fields induction =>
      rcases Except.map_eq_ok_iff.mp read with ⟨pairs, fieldsRead, rfl⟩
      rw [readFields_eq_mapM] at fieldsRead
      have each := forall_of_mapM_fields fieldsRead induction
      exact Value.Everywhere.object_iff.mpr
        ⟨rfl, fun entry member => each entry (Entries.mem_of_mem_ofList member)⟩
  | _ => cases read <;> exact (Value.Everywhere.simple_iff rfl).mpr rfl

/-- Nothing in a converted value is undefined, and each date and each file in it is what a struct
that stands for one is converted to, somewhere within the data. Without such a struct there is none,
wherever else the reserved names occur. What is read holds no date and no file at all. -/
theorem dates_and_files_have_sources (data : Data) :
    (∀ value, data.toValue = .ok value →
      .undefined ∉ value.parts ∧
      (∀ instant, .date instant ∈ value.parts →
        ∃ inner, (newtypeStruct dateStructName inner).Within data ∧
          (newtypeStruct dateStructName inner).toValue = .ok (.date instant)) ∧
      (∀ upload, .file upload ∈ value.parts →
        ∃ fields, (struct fileStructName fields).Within data ∧
          (struct fileStructName fields).toValue = .ok (.file upload))) ∧
    (∀ value, data.readValue = .ok value →
      ∀ part ∈ value.parts, part.kind ≠ .undefined ∧ part.kind ≠ .date ∧ part.kind ≠ .file) := by
  refine ⟨fun value converted => ?_, fun value read part member => ?_⟩
  · have makes := makes_of_toValue converted
    refine ⟨fun member => ?_, fun instant member => ?_, fun upload member => ?_⟩
    · cases makes _ member with
      | ordinary ordinary => cases ordinary
    · cases makes _ member with
      | ordinary ordinary => cases ordinary
      | date source converted => exact ⟨_, source, converted⟩
    · cases makes _ member with
      | ordinary ordinary => cases ordinary
      | file source converted => exact ⟨_, source, converted⟩
  · have ordinary := ordinary_of_readValue read part member
    cases part with
    | undefined => cases ordinary
    | date instant => cases ordinary
    | file upload => cases ordinary
    | _ => simp [Value.kind]

private def taken : Instant := ⟨1483228799, 1000000000, by decide⟩

private def album : Data :=
  .struct dateStructName
    [("taken", .newtypeStruct dateStructName (.string "2016-12-31T23:59:60Z")),
     ("scan", .struct fileStructName
       [("mime", .string "image/png"), ("size", .float (.infinite false))]),
     ("note", .newtypeStruct fileStructName
       (.map [(.newtypeStruct dateStructName (.string "soon"), .string fileStructName)]))]

private def albumValue : Value :=
  .object
    [("taken", .date taken), ("scan", .file ⟨none, "image/png", 18446744073709551615⟩),
     ("note", .object [("soon", .string fileStructName)])]

private def scan : Data :=
  .struct fileStructName [("mime", .string "image/png"), ("size", .unsigned 1)]

private def readScan : Value :=
  .object [("mime", .string "image/png"), ("size", .number (.ofNat 1))]

theorem album_date_has_source :
    album.toValue = .ok albumValue ∧ .undefined ∉ albumValue.parts ∧
    .date taken ∈ albumValue.parts ∧
    (∃ inner, (newtypeStruct dateStructName inner).Within album ∧
      (newtypeStruct dateStructName inner).toValue = .ok (.date taken)) ∧
    scan.readValue = .ok readScan ∧
    ∀ part ∈ readScan.parts, part.kind ≠ .undefined ∧ part.kind ≠ .date ∧ part.kind ≠ .file := by
  have converted : album.toValue = .ok albumValue := by rfl
  have read : scan.readValue = .ok readScan := by rfl
  have member : .date taken ∈ albumValue.parts := List.mem_cons_of_mem _ List.mem_cons_self
  have ⟨defined, dates, _⟩ := (dates_and_files_have_sources album).1 albumValue converted
  exact ⟨converted, defined, member, dates taken member, read,
    (dates_and_files_have_sources scan).2 readScan read⟩

end Data

end ValueSchema
