import ValueSchema.Path
import ValueSchema.Proofs.AcceptedKeys

/-! # Built paths

A path grows at both of its ends, and neither end disturbs the other: however the steps are mixed,
the keys put in front stand before those that the path began with, the last of them outermost, and
the keys pushed stand behind. The text of a path joins its keys by dots. They can be read from it
again exactly when there are any and none of them has a dot in it.
-/

namespace ValueSchema

/-! ## The text of a key -/

/-- A name is written as it is, a position as its decimal numeral. -/
inductive PathKey.Spells : PathKey → String → Prop
  | field (name : String) : Spells (.field name) name
  | index {position : Int} {text : String} (numeral : IsNumeral position text) :
      Spells (.index position) text

theorem PathKey.spells_iff {key : PathKey} {text : String} :
    key.Spells text ↔ text = key.text := by
  cases key with
  | field name =>
      constructor
      · intro spells
        cases spells
        rfl
      · intro written
        rw [written]
        exact .field name
  | index position =>
      constructor
      · intro spells
        cases spells with
        | index numeral => exact isNumeral_iff.mp numeral
      · intro written
        exact .index (isNumeral_iff.mpr written)

namespace Path

/-! ## Growth at both ends -/

/-- What a path may begin with. -/
inductive Start where
  | root
  | single (name : String)
  | collected (keys : List PathKey)

def Start.path : Start → Path
  | .root => .root
  | .single name => .singleton name
  | .collected keys => .ofKeys keys

def Start.keys : Start → List PathKey
  | .root => []
  | .single name => [.field name]
  | .collected keys => keys

theorem Start.keys_path (start : Start) : start.path.keys = start.keys.map PathKey.text := by
  cases start with
  | root => rfl
  | single name => exact keys_singleton name
  | collected keys => exact keys_ofKeys keys

inductive Step where
  | push (key : PathKey)
  | prepend (key : PathKey)

def grow (path : Path) : Step → Path
  | .push key => path.push key
  | .prepend key => path.prepend key

def extend (path : Path) (steps : List Step) : Path := steps.foldl grow path

def Step.pushed? : Step → Option PathKey
  | .push key => some key
  | .prepend _ => none

def Step.prepended? : Step → Option PathKey
  | .push _ => none
  | .prepend key => some key

/-- The keys pushed, in the order of the steps. -/
def pushed (steps : List Step) : List PathKey := steps.filterMap Step.pushed?

/-- The keys put in front, in the order of the steps. -/
def prepended (steps : List Step) : List PathKey := steps.filterMap Step.prepended?

@[simp] theorem extend_cons (path : Path) (step : Step) (rest : List Step) :
    path.extend (step :: rest) = (path.grow step).extend rest := rfl

theorem keys_extend (path : Path) (steps : List Step) :
    (path.extend steps).keys =
      (prepended steps).reverse.map PathKey.text ++ path.keys ++
        (pushed steps).map PathKey.text := by
  induction steps generalizing path with
  | nil => exact (List.append_nil path.keys).symm
  | cons step rest induction =>
      -- What the rest adds goes around the path as the first step leaves it.
      rw [extend_cons, induction]
      cases step with
      | push key =>
          have behind : pushed (.push key :: rest) = key :: pushed rest := rfl
          have inFront : prepended (.push key :: rest) = prepended rest := rfl
          simp [behind, inFront, grow]
      | prepend key =>
          have behind : pushed (.prepend key :: rest) = pushed rest := rfl
          have inFront : prepended (.prepend key :: rest) = key :: prepended rest := rfl
          simp [behind, inFront, grow]

theorem keys_extend_start (start : Start) (steps : List Step) :
    (start.path.extend steps).keys =
      ((prepended steps).reverse ++ start.keys ++ pushed steps).map PathKey.text := by
  rw [keys_extend, start.keys_path, List.map_append, List.map_append]

example : (singleton "tags").extend [.push (.index 0), .prepend (.field "user")] =
    ofKeys [.field "user", .field "tags", .index 0] := by decide

/-! ## One path behind another -/

instance : Append Path := ⟨fun outer inner => ⟨outer.keys ++ inner.keys⟩⟩

@[simp] theorem keys_append (outer inner : Path) :
    (outer ++ inner).keys = outer.keys ++ inner.keys := rfl

theorem eq_of_keys_eq {path other : Path} (same : path.keys = other.keys) : path = other :=
  congrArg Path.mk same

theorem extend_map_push (path : Path) (keys : List PathKey) :
    path.extend (keys.map .push) = path ++ ofKeys keys := by
  have behind : pushed (keys.map .push) = keys := by
    rw [pushed, List.filterMap_map]
    exact List.filterMap_some
  have inFront : prepended (keys.map .push) = [] := by
    rw [prepended, List.filterMap_eq_nil_iff, List.forall_mem_map]
    intro key _
    rfl
  apply eq_of_keys_eq
  simp [keys_extend, behind, inFront]

theorem extend_map_prepend (path : Path) (keys : List PathKey) :
    path.extend (keys.map .prepend) = ofKeys keys.reverse ++ path := by
  have behind : pushed (keys.map .prepend) = [] := by
    rw [pushed, List.filterMap_eq_nil_iff, List.forall_mem_map]
    intro key _
    rfl
  have inFront : prepended (keys.map .prepend) = keys := by
    rw [prepended, List.filterMap_map]
    exact List.filterMap_some
  apply eq_of_keys_eq
  simp [keys_extend, behind, inFront]

theorem dotted_append {outer inner : Path} (outerKeys : outer.keys ≠ [])
    (innerKeys : inner.keys ≠ []) :
    (outer ++ inner).dotted = outer.dotted ++ "." ++ inner.dotted :=
  String.intercalate_append_of_ne_nil outerKeys innerKeys

/-- Next to the root there is nothing to be joined, so no dot. -/
theorem dotted_append_eq_iff (outer inner : Path) :
    (outer ++ inner).dotted = outer.dotted ++ "." ++ inner.dotted ↔
      outer.isRoot = false ∧ inner.isRoot = false := by
  rw [isRoot_eq_false_iff, isRoot_eq_false_iff]
  constructor
  · intro joined
    have lengths := congrArg String.length joined
    simp only [dotted, keys_append, String.length_append] at lengths
    have dot : ".".length = 1 := rfl
    constructor
    · intro noKeys
      rw [noKeys, List.nil_append] at lengths
      omega
    · intro noKeys
      rw [noKeys, List.append_nil] at lengths
      omega
  · intro nonempty
    exact dotted_append nonempty.1 nonempty.2

/-! ## Keys read from the text -/

theorem not_mem_of_mem_splitOn {α : Type} [DecidableEq α] {separator : α} {list part : List α}
    (member : part ∈ list.splitOn separator) : separator ∉ part := by
  induction list generalizing part with
  | nil =>
      rw [List.splitOn_nil, List.mem_singleton] at member
      rw [member]
      exact List.not_mem_nil
  | cons head tail induction =>
      rw [List.splitOn_cons_eq_if_modifyHead] at member
      by_cases atSeparator : (head == separator) = true
      · rw [if_pos atSeparator, List.mem_cons] at member
        rcases member with rfl | member
        · exact List.not_mem_nil
        · exact induction member
      · rw [if_neg atSeparator] at member
        -- The head only makes the first part longer.
        rcases List.exists_cons_of_ne_nil (List.splitOn_ne_nil separator tail) with
          ⟨first, others, split⟩
        rw [split] at member induction
        rw [List.modifyHead_cons, List.mem_cons] at member
        rcases member with rfl | member
        · have different : separator ≠ head := by
            intro same
            rw [same, beq_self_eq_true] at atSeparator
            exact atSeparator rfl
          rw [List.mem_cons, not_or]
          exact ⟨different, induction List.mem_cons_self⟩
        · exact induction (List.mem_cons_of_mem first member)

/-- A dot inside a key looks like one between two keys, and the root like a key without text. -/
theorem split_dotted_eq_iff (path : Path) :
    (path.dotted.split '.').toList.map String.Slice.copy = path.keys ↔
      path.isRoot = false ∧ ∀ key ∈ path.keys, '.' ∉ key.toList := by
  rw [isRoot_eq_false_iff]
  constructor
  · intro same
    rw [String.toList_split_char] at same
    constructor
    · intro noKeys
      rw [noKeys, List.map_eq_nil_iff] at same
      exact List.splitOn_ne_nil _ _ same
    · intro key member
      rw [← same] at member
      rcases List.mem_map.mp member with ⟨part, isPart, rfl⟩
      rw [String.toList_ofList]
      exact not_mem_of_mem_splitOn isPart
  · rintro ⟨nonempty, noDots⟩
    have split := String.toList_split_intercalate noDots
    rw [if_neg nonempty] at split
    exact split

example : (singleton "tags.0").dotted = (ofKeys [.field "tags", .index 0]).dotted := by decide

/-- Steps at both ends, in any order, leave the keys put in front in reverse, then those of the
start, then those pushed; names stand as they are and positions as their numerals. The text of the
path joins these keys by dots. The texts of two paths are joined by one more dot exactly if neither
path is the root. The keys are the parts of the text between its dots exactly if the path is not
the root and no key has a dot. -/
theorem grows_at_both_ends :
    (∀ (key : PathKey) (text : String), key.Spells text ↔ text = key.text) ∧
    (∀ (start : Start) (steps : List Step),
      (start.path.extend steps).keys =
        ((prepended steps).reverse ++ start.keys ++ pushed steps).map PathKey.text ∧
      (start.path.extend steps).length =
        (prepended steps).length + start.keys.length + (pushed steps).length ∧
      (start.path.extend steps).dotted = ".".intercalate
        (((prepended steps).reverse ++ start.keys ++ pushed steps).map PathKey.text) ∧
      toString (start.path.extend steps) = (start.path.extend steps).dotted) ∧
    (∀ (path : Path) (keys : List PathKey),
      path.extend (keys.map .push) = path ++ ofKeys keys ∧
      path.extend (keys.map .prepend) = ofKeys keys.reverse ++ path) ∧
    (∀ outer inner : Path,
      (outer ++ inner).dotted = outer.dotted ++ "." ++ inner.dotted ↔
        outer.isRoot = false ∧ inner.isRoot = false) ∧
    ∀ path : Path, (path.dotted.split '.').toList.map String.Slice.copy = path.keys ↔
      path.isRoot = false ∧ ∀ key ∈ path.keys, '.' ∉ key.toList := by
  refine ⟨fun key text => PathKey.spells_iff, fun start steps => ?_, fun path keys => ?_,
    dotted_append_eq_iff, split_dotted_eq_iff⟩
  · have keys := keys_extend_start start steps
    have count : (start.path.extend steps).length =
        (prepended steps).length + start.keys.length + (pushed steps).length := by
      rw [length, keys, List.length_map, List.length_append, List.length_append,
        List.length_reverse]
    exact ⟨keys, count, congrArg ".".intercalate keys, rfl⟩
  · exact ⟨extend_map_push path keys, extend_map_prepend path keys⟩

end Path

end ValueSchema
