import ValueSchema.Proofs.DataMeaning

/-! # Checks of a conversion

Everything in data that can fail is listed apart from what the data means, in the order in which
it is handed over. Conversion ends with the first of these checks that fails, and with the
meaning if none does.
-/

namespace ValueSchema

/-! ## Checks -/

/-- What can fail in data: a part that cannot be handed over, a key, a value that no key waits
for, and what has been found inside the structs that stand for a date and for a file. -/
inductive Check where
  | handover (message : String)
  | key (data : Data)
  | valueWithoutKey
  | date (inner : Value)
  | file (entries : List (String × Value))

namespace Check

/-- The check fails, for this reason. A date needs a text that can be read, a file the text of
its type and then a number that is at least zero for its size. -/
inductive Fails : Check → ConversionFault → Prop
  | handover {message} : Fails (.handover message) (.raised message)
  | key {data fault} (refused : data.toKey = .error fault) : Fails (.key data) fault
  | valueWithoutKey : Fails .valueWithoutKey .valueBeforeKey
  | dateNotText {inner} (other : inner.kind ≠ .string) :
      Fails (.date inner) (.dateNotText inner.description)
  | unreadableDate {text fault} (unread : Rfc3339.read text = .error fault) :
      Fails (.date (.string text)) (.unreadableDate text fault)
  | fileWithoutMime {entries}
      (lacking : ∀ mime, Entries.find? entries "mime" ≠ some (.string mime)) :
      Fails (.file entries) .fileWithoutMime
  | fileWithoutSize {entries mime} (typed : Entries.find? entries "mime" = some (.string mime))
      (lacking : ∀ size, Entries.find? entries "size" = some (.number size) →
        Binary64.zero.atMost size = false) :
      Fails (.file entries) .fileWithoutSize

/-- The first of the checks that fails does so for this reason. -/
inductive FailsFirst : List Check → ConversionFault → Prop
  | intro {before after check fault} (passed : ∀ earlier ∈ before, ∀ other, ¬Fails earlier other)
      (failed : Fails check fault) : FailsFirst (before ++ check :: after) fault

end Check

/-- The fault that something has ended with, if it has. -/
def ConversionFault.of? {α : Type} : Except ConversionFault α → Option ConversionFault
  | .ok _ => none
  | .error fault => some fault

theorem ConversionFault.of?_eq_some_iff {α : Type} {outcome : Except ConversionFault α}
    {fault : ConversionFault} : of? outcome = some fault ↔ outcome = .error fault := by
  cases outcome <;> simp [of?]

namespace Check

/-- The outcome of the check when it is run by itself. -/
def fault? : Check → Option ConversionFault
  | .handover message => some (.raised message)
  | .key data => ConversionFault.of? data.toKey
  | .valueWithoutKey => some .valueBeforeKey
  | .date inner => ConversionFault.of? (dateOfValue inner)
  | .file entries => ConversionFault.of? (fileOfEntries entries)

end Check

/-! ## All checks of data -/

namespace Data

mutual

/-- All checks, in order: those of the parts before those of the struct around them, and that of
a key before those of its value. -/
def checks : Data → List Check
  | .present inner | .newtypeVariant _ inner => inner.checks
  | .newtypeStruct name inner =>
      inner.checks ++ if name = dateStructName then [.date inner.meaning] else []
  | .tupleVariant _ items | .sequence items => itemsChecks items
  | .structVariant _ fields => fieldsChecks fields
  | .map entries => entriesChecks entries
  | .mapCalls calls => callsChecks false calls
  | .struct name fields =>
      fieldsChecks fields ++
        if name = fileStructName then [.file (Entries.ofList (fieldsMeaning fields))] else []
  | .failure message => [.handover message]
  | _ => []

def itemsChecks : List Data → List Check
  | [] => []
  | item :: rest => item.checks ++ itemsChecks rest

def fieldsChecks : List (String × Data) → List Check
  | [] => []
  | (_, field) :: rest => field.checks ++ fieldsChecks rest

def entriesChecks : List (Data × Data) → List Check
  | [] => []
  | (key, entry) :: rest => .key key :: (entry.checks ++ entriesChecks rest)

/-- A value is preceded by the check whether a key waits for it. -/
def callsChecks : Bool → List (MapPart × Data) → List Check
  | _, [] => []
  | _, (.key, key) :: rest => .key key :: callsChecks true rest
  | waiting, (.value, entry) :: rest =>
      (if waiting then [] else [.valueWithoutKey]) ++ (entry.checks ++ callsChecks false rest)

end

theorem itemsChecks_eq_flatMap (items : List Data) :
    itemsChecks items = items.flatMap checks := by
  induction items with
  | nil => rfl
  | cons item rest induction => rw [itemsChecks, induction, List.flatMap_cons]

theorem fieldsChecks_eq_flatMap (fields : List (String × Data)) :
    fieldsChecks fields = fields.flatMap fun field => field.2.checks := by
  induction fields with
  | nil => rfl
  | cons field rest induction => rw [fieldsChecks, induction, List.flatMap_cons]

theorem entriesChecks_eq_flatMap (entries : List (Data × Data)) :
    entriesChecks entries = entries.flatMap fun entry => .key entry.1 :: entry.2.checks := by
  induction entries with
  | nil => rfl
  | cons entry rest induction =>
      rw [entriesChecks, induction, List.flatMap_cons, List.cons_append]

end Data

/-! ## Checks one after the other -/

namespace Check

theorem dateOfValue_eq_error_iff {inner : Value} {fault : ConversionFault} :
    dateOfValue inner = .error fault ↔ Fails (.date inner) fault := by
  constructor
  · intro failed
    cases inner with
    | string text =>
        rw [dateOfValue] at failed
        cases read : Rfc3339.read text with
        | ok instant =>
            rw [read] at failed
            cases failed
        | error unread =>
            rw [read] at failed
            cases failed
            exact .unreadableDate read
    | _ =>
        cases failed
        exact .dateNotText nofun
  · intro fails
    cases fails with
    | dateNotText other =>
        cases inner with
        | string text => exact absurd rfl other
        | _ => rfl
    | unreadableDate unread => rw [dateOfValue, unread]

theorem text_eq_some_iff {entries : List (String × Value)} {name text : String} :
    (Entries.find? entries name).bind Value.string? = some text ↔
      Entries.find? entries name = some (.string text) := by
  rw [Option.bind_eq_some_iff]
  constructor
  · rintro ⟨value, found, isText⟩
    rw [found, Value.string?_eq_some_iff.mp isText]
  · intro found
    exact ⟨_, found, rfl⟩

theorem size_eq_some_iff {entries : List (String × Value)} {name : String} {size : Binary64} :
    ((Entries.find? entries name).bind Value.number?).filter Binary64.zero.atMost = some size ↔
      Entries.find? entries name = some (.number size) ∧ Binary64.zero.atMost size = true := by
  rw [Option.filter_eq_some_iff, Option.bind_eq_some_iff]
  refine and_congr_left fun _ => ?_
  constructor
  · rintro ⟨value, found, isNumber⟩
    rw [found, Value.number?_eq_some_iff.mp isNumber]
  · intro found
    exact ⟨_, found, rfl⟩

theorem fileOfEntries_eq_error_iff {entries : List (String × Value)} {fault : ConversionFault} :
    fileOfEntries entries = .error fault ↔ Fails (.file entries) fault := by
  rw [fileOfEntries]
  cases found : (Entries.find? entries "mime").bind Value.string? with
  | none =>
      have lacking (mime : String) : Entries.find? entries "mime" ≠ some (.string mime) := by
        intro typed
        rw [text_eq_some_iff.mpr typed] at found
        cases found
      constructor
      · intro failed
        cases failed
        exact .fileWithoutMime lacking
      · intro fails
        cases fails with
        | fileWithoutMime => rfl
        | fileWithoutSize typed _ => exact absurd typed (lacking _)
  | some mime =>
      have typed := text_eq_some_iff.mp found
      cases sized : ((Entries.find? entries "size").bind Value.number?).filter
          Binary64.zero.atMost with
      | none =>
          have lacking (size : Binary64) (stored : Entries.find? entries "size" =
              some (.number size)) : Binary64.zero.atMost size = false := by
            refine Bool.eq_false_iff.mpr fun atLeast => ?_
            rw [size_eq_some_iff.mpr ⟨stored, atLeast⟩] at sized
            cases sized
          constructor
          · intro failed
            cases failed
            exact .fileWithoutSize typed lacking
          · intro fails
            cases fails with
            | fileWithoutMime lacking => exact absurd typed (lacking mime)
            | fileWithoutSize => rfl
      | some size =>
          have ⟨stored, atLeast⟩ := size_eq_some_iff.mp sized
          constructor
          · intro failed
            cases failed
          · intro fails
            cases fails with
            | fileWithoutMime lacking => exact absurd typed (lacking mime)
            | fileWithoutSize _ lacking =>
                rw [lacking size stored] at atLeast
                cases atLeast

theorem fault?_eq_some_iff (check : Check) (fault : ConversionFault) :
    check.fault? = some fault ↔ check.Fails fault := by
  cases check with
  | handover message =>
      constructor
      · rintro ⟨⟩
        exact .handover
      · rintro ⟨⟩
        rfl
  | valueWithoutKey =>
      constructor
      · rintro ⟨⟩
        exact .valueWithoutKey
      · rintro ⟨⟩
        rfl
  | key data =>
      refine ConversionFault.of?_eq_some_iff.trans ⟨.key, fun fails => ?_⟩
      cases fails with
      | key refused => exact refused
  | date inner => exact ConversionFault.of?_eq_some_iff.trans dateOfValue_eq_error_iff
  | file entries => exact ConversionFault.of?_eq_some_iff.trans fileOfEntries_eq_error_iff

theorem fault?_eq_none_iff (check : Check) : check.fault? = none ↔ ∀ fault, ¬check.Fails fault := by
  rw [Option.eq_none_iff_forall_ne_some]
  exact forall_congr' fun fault => not_congr (check.fault?_eq_some_iff fault)

theorem findSome?_fault?_eq_some_iff {checks : List Check} {fault : ConversionFault} :
    checks.findSome? fault? = some fault ↔ FailsFirst checks fault := by
  rw [List.findSome?_eq_some_iff]
  constructor
  · intro found
    rcases found with ⟨before, check, after, rfl, failed, passed⟩
    exact .intro (fun earlier member => earlier.fault?_eq_none_iff.mp (passed earlier member))
      ((check.fault?_eq_some_iff fault).mp failed)
  · intro failsFirst
    cases failsFirst with
    | @intro before after check _ passed failed =>
        exact ⟨before, check, after, rfl, (check.fault?_eq_some_iff fault).mpr failed,
          fun earlier member => earlier.fault?_eq_none_iff.mpr (passed earlier member)⟩

theorem exists_failsFirst_iff {checks : List Check} :
    (∃ fault, FailsFirst checks fault) ↔ ∃ check ∈ checks, ∃ fault, check.Fails fault := by
  constructor
  · rintro ⟨fault, failsFirst⟩
    cases failsFirst with
    | @intro before after check _ _ failed =>
        exact ⟨check, List.mem_append_right before List.mem_cons_self, fault, failed⟩
  · rintro ⟨check, member, fault, fails⟩
    cases found : checks.findSome? fault? with
    | some first => exact ⟨first, findSome?_fault?_eq_some_iff.mp found⟩
    | none =>
        have passes := List.findSome?_eq_none_iff.mp found check member
        exact absurd fails (check.fault?_eq_none_iff.mp passes fault)

/-- Goes through the checks up to the first that fails. If none does, this is the result. -/
def settle {α : Type} (checks : List Check) (result : α) : Except ConversionFault α :=
  match checks.findSome? fault? with
  | some fault => .error fault
  | none => .ok result

variable {α β : Type} {checks later : List Check} {result : α}

theorem settle_map (change : α → β) :
    (settle checks result).map change = settle checks (change result) := by
  rw [settle, settle]
  cases checks.findSome? fault? <;> rfl

theorem settle_bind {next : α → Except ConversionFault β} {last : β}
    (continues : next result = settle later last) :
    (settle checks result).bind next = settle (checks ++ later) last := by
  rw [settle, settle, List.findSome?_append]
  cases checks.findSome? fault? with
  | none => exact continues
  | some fault => rfl

theorem settle_eq_error_iff {fault : ConversionFault} :
    settle checks result = .error fault ↔ FailsFirst checks fault := by
  rw [← findSome?_fault?_eq_some_iff, settle]
  cases checks.findSome? fault? <;> simp

theorem settle_eq_ok_iff {other : α} :
    settle checks result = .ok other ↔
      other = result ∧ ∀ check ∈ checks, ∀ fault, ¬check.Fails fault := by
  have allPass : checks.findSome? fault? = none ↔ ∀ check ∈ checks, ∀ fault, ¬check.Fails fault :=
    List.findSome?_eq_none_iff.trans (forall₂_congr fun check _ => check.fault?_eq_none_iff)
  rw [← allPass, settle]
  cases checks.findSome? fault? <;> simp [eq_comm]

theorem settle_of {outcome : Except ConversionFault α} {check : Check}
    (same : check.fault? = ConversionFault.of? outcome) (other : α) :
    outcome = settle [check] (outcome.toOption.getD other) := by
  rw [settle, List.findSome?_singleton, same]
  cases outcome <;> rfl

theorem mapM_eq_settle {convert : α → Except ConversionFault β} {checksOf : α → List Check}
    {meant : α → β} {sources : List α}
    (each : ∀ source ∈ sources, convert source = settle (checksOf source) (meant source)) :
    sources.mapM convert = settle (sources.flatMap checksOf) (sources.map meant) := by
  induction sources with
  | nil => rfl
  | cons source rest induction =>
      rw [List.forall_mem_cons] at each
      rw [List.mapM_cons, List.flatMap_cons, each.1, induction each.2]
      exact settle_bind (settle_map _)

end Check

namespace Data

open Check

theorem itemsToValues_eq_settle {items : List Data}
    (each : ∀ item ∈ items, item.toValue = settle item.checks item.meaning) :
    itemsToValues items = settle (itemsChecks items) (itemsMeaning items) := by
  rw [itemsToValues_eq_mapM, itemsChecks_eq_flatMap, itemsMeaning_eq_map]
  exact mapM_eq_settle each

theorem fieldsToPairs_eq_settle {fields : List (String × Data)}
    (each : ∀ field ∈ fields, field.2.toValue = settle field.2.checks field.2.meaning) :
    fieldsToPairs fields = settle (fieldsChecks fields) (fieldsMeaning fields) := by
  rw [fieldsToPairs_eq_mapM, fieldsChecks_eq_flatMap, fieldsMeaning_eq_map]
  refine mapM_eq_settle fun field member => ?_
  rw [each field member, settle_map]

theorem toKey_eq_settle (key : Data) : key.toKey = settle [.key key] key.meantName :=
  settle_of rfl ""

theorem entriesToPairs_eq_settle {entries : List (Data × Data)}
    (each : ∀ entry ∈ entries, entry.2.toValue = settle entry.2.checks entry.2.meaning) :
    entriesToPairs entries = settle (entriesChecks entries) (entriesMeaning entries) := by
  rw [entriesToPairs_eq_mapM, entriesChecks_eq_flatMap, entriesMeaning_eq_map]
  refine mapM_eq_settle fun entry member => ?_
  rw [toKey_eq_settle, each entry member]
  exact settle_bind (settle_map _)

theorem callsToPairs_eq_settle {calls : List (MapPart × Data)}
    (each : ∀ call ∈ calls, call.2.toValue = settle call.2.checks call.2.meaning)
    (waiting : Option String) :
    callsToPairs waiting calls =
      settle (callsChecks waiting.isSome calls) (callsMeaning waiting calls) := by
  induction calls generalizing waiting with
  | nil => cases waiting <;> rfl
  | cons call rest induction =>
      rw [List.forall_mem_cons] at each
      obtain ⟨part, data⟩ := call
      cases part with
      | key =>
          rw [callsToPairs, callsChecks, callsMeaning, toKey_eq_settle]
          exact settle_bind (induction each.2 _)
      | value =>
          cases waiting with
          | none => rfl
          | some name =>
              rw [callsToPairs, callsChecks, callsMeaning, each.1]
              refine settle_bind ?_
              rw [induction each.2, settle_map, Option.isSome_none]

theorem toValue_eq_settle (data : Data) : data.toValue = settle data.checks data.meaning := by
  induction data with
  | present inner induction => exact induction
  | newtypeStruct name inner induction =>
      rw [toValue, checks, meaning]
      by_cases isDate : name = dateStructName
      · rw [if_pos isDate, if_pos isDate, if_pos isDate, induction]
        exact settle_bind (settle_of rfl Value.undefined)
      · rw [if_neg isDate, if_neg isDate, if_neg isDate, List.append_nil]
        exact induction
  | newtypeVariant variant inner induction =>
      rw [toValue, induction, settle_map]
      rfl
  | tupleVariant variant items induction =>
      rw [toValue, itemsToValues_eq_settle induction, settle_map]
      rfl
  | structVariant variant fields induction =>
      rw [toValue, fieldsToPairs_eq_settle induction, settle_map]
      rfl
  | sequence items induction =>
      rw [toValue, itemsToValues_eq_settle induction, settle_map]
      rfl
  | map entries induction =>
      rw [toValue, entriesToPairs_eq_settle fun entry member => (induction entry member).2,
        settle_map]
      rfl
  | mapCalls calls induction =>
      rw [toValue, callsToPairs_eq_settle induction none, settle_map]
      rfl
  | struct name fields induction =>
      rw [toValue, checks, meaning, fieldsToPairs_eq_settle induction]
      by_cases isFile : name = fileStructName
      · rw [if_pos isFile, if_pos isFile]
        exact settle_bind ((if_pos isFile).trans (settle_of rfl Value.undefined))
      · rw [if_neg isFile, if_neg isFile]
        exact settle_bind (if_neg isFile)
  | _ => rfl

theorem toValue_eq_error_iff (data : Data) (fault : ConversionFault) :
    data.toValue = .error fault ↔ FailsFirst data.checks fault := by
  rw [toValue_eq_settle, settle_eq_error_iff]

theorem toValue_eq_ok_iff (data : Data) (value : Value) :
    data.toValue = .ok value ↔
      value = data.meaning ∧ ∀ check ∈ data.checks, ∀ fault, ¬check.Fails fault := by
  rw [toValue_eq_settle, settle_eq_ok_iff]

/-- Conversion fails exactly when one of the checks does. The error is the one of the first check
that fails, as it is: it has no path, however deep the place, and nothing but its message. When
all checks pass, the result is what the data means. -/
theorem conversion_ends_with_first_failure (data : Data) :
    ((∃ error, data.toValue.mapError ConversionFault.toError = .error error) ↔
      ∃ check ∈ data.checks, ∃ fault, check.Fails fault) ∧
    (∀ error, data.toValue.mapError ConversionFault.toError = .error error ↔
      ∃ fault, FailsFirst data.checks fault ∧ error = ⟨none, .custom fault.message⟩) ∧
    (∀ value, data.toValue = .ok value ↔
      value = data.meaning ∧ ∀ check ∈ data.checks, ∀ fault, ¬check.Fails fault) := by
  have failure (error : Error) : data.toValue.mapError ConversionFault.toError = .error error ↔
      ∃ fault, FailsFirst data.checks fault ∧ error = ⟨none, .custom fault.message⟩ := by
    rw [Except.mapError_eq_error_iff]
    exact exists_congr fun fault => and_congr (data.toValue_eq_error_iff fault) eq_comm
  refine ⟨?_, failure, data.toValue_eq_ok_iff⟩
  rw [← exists_failsFirst_iff]
  constructor
  · rintro ⟨error, failed⟩
    rcases (failure error).mp failed with ⟨fault, failsFirst, _⟩
    exact ⟨fault, failsFirst⟩
  · rintro ⟨fault, failsFirst⟩
    exact ⟨_, (failure _).mpr ⟨fault, failsFirst, rfl⟩⟩

-- The entry of the map is met before the file around it, and its key before its value.
example :
    (Data.struct fileStructName
        [("mime", .unit), ("size", .map [(.absent, .failure "late")])]).checks.map Check.fault? =
      [some .keyNotText, some (.raised "late"), some .fileWithoutMime] := by rfl

end Data

end ValueSchema
