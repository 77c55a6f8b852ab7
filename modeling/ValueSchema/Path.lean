/-!
Where a value lies inside the value that is validated.
-/

namespace ValueSchema

/-- Field names and array positions, outermost first. -/
structure Path where
  keys : List String
  deriving DecidableEq

/-- One step of a path; positions count as their decimal text. -/
inductive PathKey where
  | field (name : String)
  | index (position : Int)
  deriving DecidableEq

def PathKey.text : PathKey → String
  | .field name => name
  | .index position => toString position

namespace Path

def root : Path := ⟨[]⟩

def ofKeys (keys : List PathKey) : Path := ⟨keys.map PathKey.text⟩

/-- Descends from the end of the path. -/
def push (path : Path) (key : PathKey) : Path := ⟨path.keys ++ [key.text]⟩

/-- Starts the path one level further out. -/
def prepend (path : Path) (key : PathKey) : Path := ⟨key.text :: path.keys⟩

def singleton (name : String) : Path := root.push (.field name)

def length (path : Path) : Nat := path.keys.length

def isRoot (path : Path) : Bool := path.keys.isEmpty

def dotted (path : Path) : String := ".".intercalate path.keys

instance : ToString Path := ⟨dotted⟩

@[simp] theorem keys_ofKeys (keys : List PathKey) :
    (ofKeys keys).keys = keys.map PathKey.text := rfl

@[simp] theorem keys_singleton (name : String) : (singleton name).keys = [name] := rfl

@[simp] theorem keys_push (path : Path) (key : PathKey) :
    (path.push key).keys = path.keys ++ [key.text] := rfl

@[simp] theorem keys_prepend (path : Path) (key : PathKey) :
    (path.prepend key).keys = key.text :: path.keys := rfl

@[simp] theorem isRoot_eq_false_iff {path : Path} : path.isRoot = false ↔ path.keys ≠ [] :=
  List.isEmpty_eq_false_iff

end Path

end ValueSchema
