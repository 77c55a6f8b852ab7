import ValueSchema.Data
import ValueSchema.Text.Quoted
import ValueSchema.Value

/-!
Values, files and dates read from data that describes itself. Unlike conversion, reading
asks for something definite at every place and refuses what does not fit.
-/

namespace ValueSchema

/-! ## Failures -/

/-- What was found where something else was wanted. -/
inductive Unexpected where
  | boolean (truth : Bool)
  | integer (n : Int)
  | wideSigned (n : Int)
  | wideUnsigned (n : Nat)
  | float (n : Binary64)
  | string (text : String)
  | bytes
  | option
  | unit
  | newtypeStruct
  | variant
  | sequence
  | map
  deriving DecidableEq

/-- Floats show that they are floats: a finite one has a point. -/
def Unexpected.description : Unexpected → String
  | .boolean truth => "boolean `" ++ (if truth then "true" else "false") ++ "`"
  | .integer n => "integer `" ++ toString n ++ "`"
  | .wideSigned n => "integer `" ++ toString n ++ "` as i128"
  | .wideUnsigned n => "integer `" ++ toString n ++ "` as u128"
  | .float n =>
      let point := if n.isFinite && !n.text.toList.contains '.' then ".0" else ""
      "floating point `" ++ n.text ++ point ++ "`"
  | .string text => "string " ++ quoted text
  | .bytes => "byte array"
  | .option => "Option value"
  | .unit => "unit value"
  | .newtypeStruct => "newtype struct"
  | .variant => "enum"
  | .sequence => "sequence"
  | .map => "map"

/-- Why data cannot be read. -/
inductive ReadFault where
  | raised (message : String)
  | invalidType (found : Unexpected) (expected : String)
  | invalidValue (found : Unexpected) (expected : String)
  | invalidLength (length : Nat) (expected : String)
  | duplicateField (field : String)
  | missingField (field : String)
  | unreadableDate (fault : Rfc3339.Fault)
  deriving DecidableEq

def ReadFault.message : ReadFault → String
  | .raised message => message
  | .invalidType found expected =>
      "invalid type: " ++ found.description ++ ", expected " ++ expected
  | .invalidValue found expected =>
      "invalid value: " ++ found.description ++ ", expected " ++ expected
  | .invalidLength length expected =>
      "invalid length " ++ toString length ++ ", expected " ++ expected
  | .duplicateField field => "duplicate field `" ++ field ++ "`"
  | .missingField field => "missing field `" ++ field ++ "`"
  | .unreadableDate fault => fault.message

namespace Data

/-- How data appears to a reader that has no use for it. -/
def unexpected : Data → Unexpected
  | .boolean truth => .boolean truth
  | .signed n => .integer n.toInt
  | .unsigned n => .integer n.toNat
  | .wideSigned n => .wideSigned n
  | .wideUnsigned n => .wideUnsigned n
  | .float n => .float n
  | .char c => .string (String.singleton c)
  | .string text => .string text
  | .bytes _ => .bytes
  | .absent | .present _ => .option
  | .unit | .unitStruct _ => .unit
  | .newtypeStruct _ _ => .newtypeStruct
  | .unitVariant _ | .newtypeVariant _ _ | .tupleVariant _ _ | .structVariant _ _ => .variant
  | .sequence _ => .sequence
  | .map _ | .mapCalls _ | .struct _ _ => .map
  | .failure _ => .unit

/-- Refuses data: it fails with its own message if it has one. -/
def refuse {α : Type} (data : Data) (expected : String) : Except ReadFault α :=
  match data with
  | .failure message => .error (.raised message)
  | data => .error (.invalidType data.unexpected expected)

/-! ## Texts -/

/-- A text; bytes count when they are one in UTF-8. -/
def readString : Data → Except ReadFault String
  | .char c => .ok (String.singleton c)
  | .string text => .ok text
  | .bytes encoded =>
      match String.fromUTF8? ⟨encoded.toArray⟩ with
      | some text => .ok text
      | none => .error (.invalidValue .bytes "a string")
  | data => data.refuse "a string"

def readOptionalString : Data → Except ReadFault (Option String)
  | .absent | .unit => .ok none
  | .present inner => inner.readString.map some
  | data => data.readString.map some

/-! ## Dates -/

def readDate (data : Data) : Except ReadFault Instant :=
  data.readString.bind fun text => (Rfc3339.read text).mapError .unreadableDate

/-! ## Values -/

mutual

/-- A value of any kind other than a date or a file. Wide integers, bytes and wrappers are
none, and the keys of maps must be texts. -/
def readValue : Data → Except ReadFault Value
  | .boolean truth => .ok (.boolean truth)
  | .signed n => .ok (.number (.ofInt n.toInt))
  | .unsigned n => .ok (.number (.ofNat n.toNat))
  | .float n => .ok (.number n)
  | .char c => .ok (.string (String.singleton c))
  | .string text => .ok (.string text)
  | .absent | .unit | .unitStruct _ => .ok .null
  | .present inner => inner.readValue
  | .sequence items => (readItems items).map .array
  | .map entries => (readEntries entries).map .ofPairs
  | .struct _ fields => (readFields fields).map .ofPairs
  | data => data.refuse "any value"

def readItems : List Data → Except ReadFault (List Value)
  | [] => .ok []
  | item :: rest =>
      item.readValue.bind fun value => (readItems rest).map fun values => value :: values

def readEntries : List (Data × Data) → Except ReadFault (List (String × Value))
  | [] => .ok []
  | (key, entry) :: rest =>
      key.readString.bind fun name =>
        entry.readValue.bind fun value =>
          (readEntries rest).map fun pairs => (name, value) :: pairs

def readFields : List (String × Data) → Except ReadFault (List (String × Value))
  | [] => .ok []
  | (name, field) :: rest =>
      field.readValue.bind fun value => (readFields rest).map fun pairs => (name, value) :: pairs

end

/-! ## Files -/

mutual

/-- Passes over data of which only its failures matter. -/
def skip : Data → Except ReadFault Unit
  | .present inner | .newtypeStruct _ inner => inner.skip
  | .sequence items => skipItems items
  | .map entries => skipEntries entries
  | .struct _ fields => skipFields fields
  | .failure message => .error (.raised message)
  | _ => .ok ()

def skipItems : List Data → Except ReadFault Unit
  | [] => .ok ()
  | item :: rest => item.skip.bind fun _ => skipItems rest

def skipEntries : List (Data × Data) → Except ReadFault Unit
  | [] => .ok ()
  | (key, entry) :: rest => key.skip.bind fun _ => entry.skip.bind fun _ => skipEntries rest

def skipFields : List (String × Data) → Except ReadFault Unit
  | [] => .ok ()
  | (_, field) :: rest => field.skip.bind fun _ => skipFields rest

end

def readSize : Data → Except ReadFault UInt64
  | .unsigned n => .ok n
  | .signed n =>
      if 0 ≤ n.toInt then .ok (UInt64.ofNat n.toInt.toNat)
      else .error (.invalidValue (.integer n.toInt) "u64")
  | data => data.refuse "u64"

/-- A field of a file. -/
inductive FileField where
  | name
  | mime
  | size
  deriving DecidableEq

def FileField.ofName? (name : String) : Option FileField :=
  if name = "name" then some .name
  else if name = "mime" then some .mime
  else if name = "size" then some .size
  else none

/-- The field that a key names by its text or its position, if it is one of a file. -/
def readFileField : Data → Except ReadFault (Option FileField)
  | .unsigned n =>
      .ok (if n = 0 then some .name
        else if n = 1 then some .mime
        else if n = 2 then some .size
        else none)
  | .char c => .ok (FileField.ofName? (String.singleton c))
  | .string text => .ok (FileField.ofName? text)
  | .bytes encoded => .ok ((String.fromUTF8? ⟨encoded.toArray⟩).bind FileField.ofName?)
  | data => data.refuse "field identifier"

/-- The fields of a file that have been read. -/
structure FileParts where
  name : Option (Option String)
  mime : Option String
  size : Option UInt64

namespace FileParts

/-- Reads one more field, which must not have been read before. -/
def read (parts : FileParts) (field : FileField) (data : Data) : Except ReadFault FileParts :=
  match field with
  | .name =>
      if parts.name.isSome then .error (.duplicateField "name")
      else data.readOptionalString.map fun name => { parts with name := some name }
  | .mime =>
      if parts.mime.isSome then .error (.duplicateField "mime")
      else data.readString.map fun mime => { parts with mime := some mime }
  | .size =>
      if parts.size.isSome then .error (.duplicateField "size")
      else data.readSize.map fun size => { parts with size := some size }

/-- The file, in which only the name may be missing. -/
def toFile (parts : FileParts) : Except ReadFault File :=
  match parts.mime, parts.size with
  | none, _ => .error (.missingField "mime")
  | _, none => .error (.missingField "size")
  | some mime, some size => .ok ⟨parts.name.getD none, mime, size⟩

/-- Reads entries in order; those that belong to no field are passed over. -/
def readEntries (parts : FileParts) : List (Data × Data) → Except ReadFault FileParts
  | [] => .ok parts
  | (key, entry) :: rest =>
      key.readFileField.bind fun
        | none => entry.skip.bind fun _ => parts.readEntries rest
        | some field => (parts.read field entry).bind fun parts => parts.readEntries rest

end FileParts

/-- A file by the names of its fields or by their order. -/
def readUpload : Data → Except ReadFault File
  | .sequence items =>
      let short (length : Nat) : Except ReadFault File :=
        .error (.invalidLength length "struct File with 3 elements")
      match items with
      | [] => short 0
      | name :: rest => name.readOptionalString.bind fun name =>
        match rest with
        | [] => short 1
        | mime :: rest => mime.readString.bind fun mime =>
          match rest with
          | [] => short 2
          | size :: _ => size.readSize.map fun size => ⟨name, mime, size⟩
  | .map entries =>
      (FileParts.readEntries ⟨none, none, none⟩ entries).bind
        FileParts.toFile
  | .struct _ fields =>
      (FileParts.readEntries ⟨none, none, none⟩
        (fields.map fun field => (.string field.1, field.2))).bind FileParts.toFile
  | data => data.refuse "struct File"

end Data

end ValueSchema
