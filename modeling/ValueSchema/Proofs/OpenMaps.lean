import ValueSchema.Proofs.DataInduction

/-! # Open maps

A map may be handed over in calls for its keys and its values. Between two calls at most one key
waits, for the value that comes next. A map is made exactly when each value comes right after a
key; otherwise the first value that does not is refused.
-/

namespace ValueSchema

/-! ## One call after the other -/

/-- A map between two calls: the entries that are complete, and the key that waits. -/
structure OpenMap where
  entries : List (String × Value)
  waiting : Option String

namespace OpenMap

def empty : OpenMap := ⟨[], none⟩

/-- A key takes the place of one that still waits. A value goes with the key that waits, after
which none does. -/
def call (state : OpenMap) : MapPart × Data → Except ConversionFault OpenMap
  | (.key, key) => key.toKey.map fun name => ⟨state.entries, some name⟩
  | (.value, entry) =>
      match state.waiting with
      | none => .error .valueBeforeKey
      | some name => entry.toValue.map fun value => ⟨Entries.insert state.entries name value, none⟩

def run (state : OpenMap) (calls : List (MapPart × Data)) : Except ConversionFault OpenMap :=
  calls.foldlM call state

/-- A key that still waits is dropped. -/
def close (state : OpenMap) : Value := .object state.entries

section

variable (state : OpenMap) (entries : List (String × Value)) (name : String) (data : Data)

theorem call_key : state.call (.key, data) =
    data.toKey.map fun name => ⟨state.entries, some name⟩ := rfl

theorem call_value_of_none : OpenMap.call ⟨entries, none⟩ (.value, data) =
    .error .valueBeforeKey := rfl

theorem call_value_of_some : OpenMap.call ⟨entries, some name⟩ (.value, data) =
    data.toValue.map fun value => ⟨Entries.insert entries name value, none⟩ := rfl

end

@[simp] theorem run_cons (state : OpenMap) (first : MapPart × Data) (rest : List (MapPart × Data)) :
    state.run (first :: rest) = (state.call first).bind fun next => next.run rest :=
  List.foldlM_cons

@[simp] theorem run_append (state : OpenMap) (before after : List (MapPart × Data)) :
    state.run (before ++ after) = (state.run before).bind fun next => next.run after :=
  List.foldlM_append

/-- To store entries call by call is to store all pairs in the end. -/
theorem map_close_run (entries : List (String × Value)) (waiting : Option String)
    (calls : List (MapPart × Data)) :
    (OpenMap.run ⟨entries, waiting⟩ calls).map close =
      (callsToPairs waiting calls).map fun pairs =>
        .object (pairs.foldl (fun entries pair => Entries.insert entries pair.1 pair.2)
          entries) := by
  induction calls generalizing entries waiting with
  | nil => cases waiting <;> rfl
  | cons first rest induction =>
      obtain ⟨part, data⟩ := first
      rw [run_cons]
      cases part with
      | key =>
          rw [call_key, callsToPairs]
          cases data.toKey with
          | error fault => rfl
          | ok name => exact induction entries (some name)
      | value =>
          cases waiting with
          | none => rfl
          | some name =>
              rw [call_value_of_some, callsToPairs]
              cases data.toValue with
              | error fault => rfl
              | ok value =>
                  apply (induction (Entries.insert entries name value) none).trans
                  cases callsToPairs none rest <;> rfl

theorem toValue_mapCalls (calls : List (MapPart × Data)) :
    (Data.mapCalls calls).toValue = (empty.run calls).map close :=
  (map_close_run [] none calls).symm

/-! ## Keys and values in turn -/

def EndsWithKey (calls : List (MapPart × Data)) : Prop :=
  ∃ earlier key, calls = earlier ++ [(MapPart.key, key)]

/-- Each value comes right after a key. -/
def Paired (calls : List (MapPart × Data)) : Prop :=
  ∀ before value, before ++ [(MapPart.value, value)] <+: calls → EndsWithKey before

/-- The keys that come right before a value, each with that value. -/
def completePairs (calls : List (MapPart × Data)) : List (Data × Data) :=
  (calls.zip calls.tail).filterMap fun
    | ((.key, key), (.value, value)) => some (key, value)
    | _ => none

/-- What a call hands over can be converted by itself. -/
def Converts : MapPart × Data → Prop
  | (.key, key) => ∃ name, key.toKey = .ok name
  | (.value, entry) => ∃ value, entry.toValue = .ok value

theorem not_endsWithKey_value {earlier : List (MapPart × Data)} {value : Data} :
    ¬EndsWithKey (earlier ++ [(.value, value)]) := by
  intro endsWithKey
  rcases endsWithKey with ⟨before, key, same⟩
  cases (List.append_singleton_inj.mp same).2

theorem not_endsWithKey_iff {calls : List (MapPart × Data)} :
    ¬EndsWithKey calls ↔ calls = [] ∨ ∃ earlier value, calls = earlier ++ [(.value, value)] := by
  constructor
  · intro noKey
    rcases calls.eq_nil_or_concat with empty | ⟨earlier, ⟨part, data⟩, ended⟩
    · exact .inl empty
    · rw [List.concat_eq_append] at ended
      cases part with
      | key => exact absurd ⟨earlier, data, ended⟩ noKey
      | value => exact .inr ⟨earlier, data, ended⟩
  · intro startsOrValue
    rcases startsOrValue with rfl | ⟨earlier, value, rfl⟩
    · intro endsWithKey
      rcases endsWithKey with ⟨earlier, key, same⟩
      cases earlier <;> cases same
    · exact not_endsWithKey_value

theorem paired_nil : Paired [] := by
  intro before value start
  cases before <;> cases List.prefix_nil.mp start

theorem Paired.concat {calls : List (MapPart × Data)} {call : MapPart × Data}
    (paired : Paired calls) (follows : call.1 = .value → EndsWithKey calls) :
    Paired (calls ++ [call]) := by
  intro before value start
  rcases List.prefix_concat_iff.mp start with whole | earlier
  · rcases List.append_singleton_inj.mp whole with ⟨rfl, rfl⟩
    exact follows rfl
  · exact paired before value earlier

/-! ## Pairs that are complete -/

/-- What is last in a sequence decides, with the next call, whether there is one more pair. -/
theorem completePairs_concat (earlier : List (MapPart × Data)) (last next : MapPart × Data) :
    completePairs (earlier ++ [last] ++ [next]) =
      completePairs (earlier ++ [last]) ++ completePairs [last, next] := by
  induction earlier with
  | nil => rfl
  | cons first rest induction =>
      have split (second : MapPart × Data) (others : List (MapPart × Data)) :
          completePairs (first :: second :: others) =
            completePairs [first, second] ++ completePairs (second :: others) := by
        rw [completePairs, completePairs, completePairs, ← List.filterMap_append]
        rfl
      cases rest with
      | nil => exact split last [next]
      | cons second others =>
          simp only [List.cons_append] at induction ⊢
          rw [split second (others ++ [last] ++ [next]), split second (others ++ [last]),
            induction, List.append_assoc]

theorem completePairs_concat_key (calls : List (MapPart × Data)) (key : Data) :
    completePairs (calls ++ [(.key, key)]) = completePairs calls := by
  rcases calls.eq_nil_or_concat with rfl | ⟨earlier, last, rfl⟩
  · rfl
  · rw [List.concat_eq_append, completePairs_concat]
    obtain ⟨part, data⟩ := last
    cases part <;> exact List.append_nil _

theorem completePairs_concat_value (earlier : List (MapPart × Data)) (key value : Data) :
    completePairs (earlier ++ [(.key, key)] ++ [(.value, value)]) =
      completePairs earlier ++ [(key, value)] := by
  rw [completePairs_concat, completePairs_concat_key]
  rfl

theorem toValue_map_concat {entries : List (Data × Data)} {fields : List (String × Value)}
    {key data : Data} {name : String} {value : Value}
    (stored : (Data.map entries).toValue = .ok (.object fields))
    (named : key.toKey = .ok name) (converted : data.toValue = .ok value) :
    (Data.map (entries ++ [(key, data)])).toValue =
      .ok (.object (Entries.insert fields name value)) := by
  rw [Data.toValue, entriesToPairs_eq_mapM] at stored ⊢
  rcases Except.map_eq_ok_iff.mp stored with ⟨pairs, arrived, same⟩
  cases same
  have last : [(key, data)].mapM (fun entry =>
      entry.1.toKey.bind fun name => entry.2.toValue.map (name, ·)) = .ok [(name, value)] := by
    rw [List.mapM_cons, named, converted]
    rfl
  have stored : Entries.insert (Entries.ofList pairs) name value =
      Entries.ofList (pairs ++ [(name, value)]) := by
    rw [Entries.ofList, Entries.ofList, List.foldl_append]
    rfl
  rw [List.mapM_append, arrived, last, stored]
  rfl

/-! ## What the calls lead to -/

/-- After the calls, the entries are those of the pairs that are complete, and a key waits
exactly when it has come last. -/
inductive Reflects : OpenMap → List (MapPart × Data) → Prop
  | settled {entries calls}
      (stored : (Data.map (completePairs calls)).toValue = .ok (.object entries))
      (noKey : ¬EndsWithKey calls) : Reflects ⟨entries, none⟩ calls
  | waiting {entries earlier key name}
      (stored : (Data.map (completePairs earlier)).toValue = .ok (.object entries))
      (named : key.toKey = .ok name) :
      Reflects ⟨entries, some name⟩ (earlier ++ [(.key, key)])

namespace Reflects

variable {state : OpenMap} {calls : List (MapPart × Data)}

theorem stored (reflects : Reflects state calls) :
    (Data.map (completePairs calls)).toValue = .ok state.close := by
  cases reflects with
  | settled stored _ => exact stored
  | waiting stored _ =>
      rw [completePairs_concat_key]
      exact stored

/-- A key is always taken, and a value right after a key. -/
theorem call (reflects : Reflects state calls) {next : MapPart × Data} (converts : Converts next)
    (follows : next.1 = .value → EndsWithKey calls) :
    ∃ after, state.call next = .ok after ∧ Reflects after (calls ++ [next]) := by
  obtain ⟨part, data⟩ := next
  cases part with
  | key =>
      rcases converts with ⟨name, named⟩
      rw [call_key, named]
      exact ⟨_, rfl, .waiting reflects.stored named⟩
  | value =>
      rcases converts with ⟨value, converted⟩
      cases reflects with
      | settled _ noKey => exact absurd (follows rfl) noKey
      | waiting stored named =>
          rw [call_value_of_some, converted]
          apply Exists.intro
          constructor
          · rfl
          · apply Reflects.settled
            · rw [completePairs_concat_value]
              exact toValue_map_concat stored named converted
            · exact not_endsWithKey_value

theorem refuses (reflects : Reflects state calls) (noKey : ¬EndsWithKey calls) (data : Data) :
    state.call (.value, data) = .error .valueBeforeKey := by
  cases reflects with
  | settled _ _ => exact call_value_of_none _ data
  | waiting _ _ => exact absurd ⟨_, _, rfl⟩ noKey

/-- All calls are taken, or those before the first value that does not come right after a key. -/
theorem run (reflects : Reflects state calls) (paired : Paired calls)
    {further : List (MapPart × Data)} (convert : ∀ call ∈ further, Converts call) :
    (∃ last, state.run further = .ok last ∧ Reflects last (calls ++ further) ∧
      Paired (calls ++ further)) ∨
    ∃ before value middle, before ++ [(.value, value)] <+: further ∧ Paired (calls ++ before) ∧
      ¬EndsWithKey (calls ++ before) ∧ state.run before = .ok middle ∧
      middle.call (.value, value) = .error .valueBeforeKey := by
  induction further generalizing state calls with
  | nil =>
      left
      rw [List.append_nil]
      exact ⟨state, rfl, reflects, paired⟩
  | cons next rest induction =>
      rw [List.forall_mem_cons] at convert
      -- The next call is taken, or it is a value with nothing but a value before it.
      by_cases follows : next.1 = .value → EndsWithKey calls
      · rcases reflects.call convert.1 follows with ⟨after, taken, reflectsAfter⟩
        have ran (others : List (MapPart × Data)) :
            state.run (next :: others) = after.run others := by
          rw [run_cons, taken]
          rfl
        rcases induction reflectsAfter (paired.concat follows) convert.2 with
          ⟨last, all, reflectsLast, allPaired⟩ |
            ⟨before, value, middle, start, beforePaired, noKey, taken, refused⟩
        · left
          rw [List.append_assoc] at reflectsLast allPaired
          exact ⟨last, (ran rest).trans all, reflectsLast, allPaired⟩
        · right
          rw [List.append_assoc] at beforePaired noKey
          exact ⟨next :: before, value, middle, List.cons_prefix_cons.mpr ⟨rfl, start⟩,
            beforePaired, noKey, (ran before).trans taken, refused⟩
      · right
        obtain ⟨part, data⟩ := next
        rw [Classical.not_imp] at follows
        rcases follows with ⟨⟨⟩, noKey⟩
        have refused := reflects.refuses noKey data
        rw [← List.append_nil calls] at paired noKey
        exact ⟨[], data, state, List.cons_prefix_cons.mpr ⟨rfl, rest.nil_prefix⟩, paired, noKey,
          rfl, refused⟩

end Reflects

theorem reflects_empty : Reflects empty [] := by
  apply Reflects.settled rfl
  exact not_endsWithKey_iff.mpr (.inl rfl)

/-! ## Maps that are made -/

/-- Where keys and values convert by themselves, calls make a map exactly when each value comes
right after a key, and it is the map of these keys with these values. Otherwise all goes well up
to the first value that comes at the start or after another value, and this one is refused. -/
theorem made_exactly_when_paired {calls : List (MapPart × Data)}
    (convert : ∀ call ∈ calls, Converts call) :
    (Data.mapCalls calls).toValue = (empty.run calls).map close ∧
    ((Data.mapCalls calls).toValue.isOk = true ↔ Paired calls) ∧
    (Paired calls → ∃ entries, (Data.mapCalls calls).toValue = .ok (.object entries) ∧
      (Data.map (completePairs calls)).toValue = .ok (.object entries)) ∧
    (¬Paired calls → ∃ before value, before ++ [(.value, value)] <+: calls ∧ Paired before ∧
      (before = [] ∨ ∃ earlier other, before = earlier ++ [(.value, other)]) ∧
      (∃ state, empty.run before = .ok state ∧
        state.call (.value, value) = .error .valueBeforeKey) ∧
      (Data.mapCalls calls).toValue.mapError ConversionFault.toError =
        .error ⟨none, .custom "map value serialized before its key"⟩) := by
  rw [toValue_mapCalls]
  rcases reflects_empty.run paired_nil convert with
    ⟨last, ran, reflects, paired⟩ |
      ⟨before, value, middle, ⟨rest, rfl⟩, beforePaired, noKey, taken, refused⟩
  · rw [ran]
    exact ⟨rfl, iff_of_true rfl paired, fun _ => ⟨last.entries, rfl, reflects.stored⟩,
      fun unpaired => absurd paired unpaired⟩
  · have unpaired : ¬Paired (before ++ [(.value, value)] ++ rest) := by
      intro paired
      exact noKey (paired before value (List.prefix_append _ _))
    have failed : empty.run (before ++ [(.value, value)] ++ rest) = .error .valueBeforeKey := by
      rw [List.append_assoc, run_append, taken, Except.bind, List.singleton_append, run_cons,
        refused]
      rfl
    rw [failed]
    exact ⟨rfl, iff_of_false Bool.false_ne_true unpaired, fun paired => absurd paired unpaired,
      fun _ => ⟨before, value, List.prefix_append _ _, beforePaired, not_endsWithKey_iff.mp noKey,
        ⟨middle, taken, refused⟩, rfl⟩⟩

private def seats : List (MapPart × Data) :=
  [(.key, .string "a"), (.key, .signed 7), (.value, .unit), (.key, .string "7"),
   (.value, .boolean true), (.key, .char 'z')]

private def crowded : List (MapPart × Data) :=
  [(.key, .string "a"), (.value, .unit), (.value, .unit), (.key, .string "b")]

private theorem seats_convert : ∀ call ∈ seats, Converts call := by
  simp only [seats, List.forall_mem_cons]
  exact ⟨⟨_, rfl⟩, ⟨_, rfl⟩, ⟨_, rfl⟩, ⟨_, rfl⟩, ⟨_, rfl⟩, ⟨_, rfl⟩, List.forall_mem_nil _⟩

private theorem crowded_convert : ∀ call ∈ crowded, Converts call := by
  simp only [crowded, List.forall_mem_cons]
  exact ⟨⟨_, rfl⟩, ⟨_, rfl⟩, ⟨_, rfl⟩, ⟨_, rfl⟩, List.forall_mem_nil _⟩

/-- Of six calls the keys that were dropped leave no trace, and the second of two values in a row
is refused. -/
theorem seats_made_and_crowded_refused :
    (∀ call ∈ seats, Converts call) ∧ Paired seats ∧
    (Data.mapCalls seats).toValue = .ok (.object [("7", .boolean true)]) ∧
    (Data.map (completePairs seats)).toValue = .ok (.object [("7", .boolean true)]) ∧
    (∀ call ∈ crowded, Converts call) ∧ ¬Paired crowded ∧
    (Data.mapCalls crowded).toValue.mapError ConversionFault.toError =
      .error ⟨none, .custom "map value serialized before its key"⟩ := by
  rcases made_exactly_when_paired seats_convert with ⟨_, made, sameMap, _⟩
  rcases made_exactly_when_paired crowded_convert with ⟨_, madeCrowded, _, refused⟩
  have paired : Paired seats := made.mp rfl
  have unpaired : ¬Paired crowded := by
    intro paired
    cases madeCrowded.mpr paired
  rcases sameMap paired with ⟨entries, seated, listed⟩
  cases seated
  rcases refused unpaired with ⟨_, _, _, _, _, _, failed⟩
  exact ⟨seats_convert, paired, rfl, listed, crowded_convert, unpaired, failed⟩

end OpenMap

end ValueSchema
