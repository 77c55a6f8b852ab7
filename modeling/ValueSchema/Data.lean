import ValueSchema.Number.Binary64

/-!
Structured data as programs hand it over, before it is a value: it knows the width of
integers, optional parts, and the names of structs and variants.
-/

namespace ValueSchema

/-- What a call on an open map hands over. -/
inductive MapPart where
  | key
  | value
  deriving DecidableEq

/-- An optional part is absent or present. Sequences and tuples of any sort are sequences;
numbers of single precision are held as the numbers of double precision that they are. The
fields of a struct are those that were not skipped. -/
inductive Data where
  | boolean (truth : Bool)
  | signed (n : Int64)
  | unsigned (n : UInt64)
  | wideSigned (n : Int)
  | wideUnsigned (n : Nat)
  | float (n : Binary64)
  | char (c : Char)
  | string (text : String)
  | bytes (encoded : List UInt8)
  | absent
  | present (inner : Data)
  | unit
  | unitStruct (name : String)
  | newtypeStruct (name : String) (inner : Data)
  | unitVariant (variant : String)
  | newtypeVariant (variant : String) (inner : Data)
  | tupleVariant (variant : String) (items : List Data)
  | structVariant (variant : String) (fields : List (String × Data))
  | sequence (items : List Data)
  | map (entries : List (Data × Data))
  | mapCalls (calls : List (MapPart × Data))
  | struct (name : String) (fields : List (String × Data))
  /-- A part that cannot be handed over. -/
  | failure (message : String)

/-- The struct that stands for an uploaded file. -/
def fileStructName : String := "$conform::File"

/-- The struct around the text that stands for a date. -/
def dateStructName : String := "$conform::Date"

end ValueSchema
