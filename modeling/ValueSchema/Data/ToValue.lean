import ValueSchema.Data
import ValueSchema.Error
import ValueSchema.Value

/-!
Data turned into values. Optional parts and wrappers disappear, variants become objects of
one entry, and the reserved struct names bring back files and dates.
-/

namespace ValueSchema

/-! ## Failures -/

/-- Why data is not a value. -/
inductive ConversionFault where
  | raised (message : String)
  | keyNotText
  | wideSignedKey
  | wideUnsignedKey
  | valueBeforeKey
  | unreadableDate (text : String) (fault : Rfc3339.Fault)
  | dateNotText (description : String)
  | fileWithoutMime
  | fileWithoutSize
  deriving DecidableEq

namespace ConversionFault

def message : ConversionFault → String
  | .raised message => message
  | .keyNotText => "map keys must be strings"
  | .wideSignedKey => "i128 is not supported"
  | .wideUnsignedKey => "u128 is not supported"
  | .valueBeforeKey => "map value serialized before its key"
  | .unreadableDate text fault => "invalid date \"" ++ text ++ "\": " ++ fault.message
  | .dateNotText description => "invalid date " ++ description
  | .fileWithoutMime => "file is missing its MIME type"
  | .fileWithoutSize => "file is missing its size"

def toError (fault : ConversionFault) : Error := .custom fault.message

end ConversionFault

/-! ## Keys -/

/-- The name that data gives to an entry: texts stand for themselves, variants for their
names and integers of up to 64 bits for their decimal digits, through any wrappers. -/
def Data.toKey : Data → Except ConversionFault String
  | .signed n => .ok (toString n.toInt)
  | .unsigned n => .ok (toString n.toNat)
  | .char c => .ok (String.singleton c)
  | .string text => .ok text
  | .unitVariant variant => .ok variant
  | .newtypeStruct _ inner => inner.toKey
  | .wideSigned _ => .error .wideSignedKey
  | .wideUnsigned _ => .error .wideUnsignedKey
  | .failure message => .error (.raised message)
  | _ => .error .keyNotText

/-! ## Reserved structs -/

/-- A date from the value inside its struct. -/
def dateOfValue : Value → Except ConversionFault Value
  | .string text =>
      match Rfc3339.read text with
      | .ok instant => .ok (.date instant)
      | .error fault => .error (.unreadableDate text fault)
  | value => .error (.dateNotText value.description)

/-- A file from the entries of its struct. -/
def fileOfEntries (entries : List (String × Value)) : Except ConversionFault Value :=
  match (Entries.find? entries "mime").bind Value.string? with
  | none => .error .fileWithoutMime
  | some mime =>
      match ((Entries.find? entries "size").bind Value.number?).filter Binary64.zero.atMost with
      | none => .error .fileWithoutSize
      | some size =>
          .ok (.file ⟨(Entries.find? entries "name").bind Value.string?, mime, size.toWord⟩)

/-! ## Conversion -/

mutual

/-- The value of data, or the first failure in the order in which the parts are handed
over. -/
def Data.toValue : Data → Except ConversionFault Value
  | .boolean truth => .ok (.boolean truth)
  | .signed n => .ok (.number (.ofInt n.toInt))
  | .unsigned n => .ok (.number (.ofNat n.toNat))
  | .wideSigned n => .ok (.number (.ofInt n))
  | .wideUnsigned n => .ok (.number (.ofNat n))
  | .float n => .ok (.number n)
  | .char c => .ok (.string (String.singleton c))
  | .string text => .ok (.string text)
  | .bytes encoded => .ok (.array (encoded.map fun byte => .number (.ofNat byte.toNat)))
  | .absent | .unit | .unitStruct _ => .ok .null
  | .present inner => inner.toValue
  | .newtypeStruct name inner =>
      if name = dateStructName then inner.toValue.bind dateOfValue else inner.toValue
  | .unitVariant variant => .ok (.string variant)
  | .newtypeVariant variant inner => inner.toValue.map fun value => .object [(variant, value)]
  | .tupleVariant variant items =>
      (itemsToValues items).map fun values => .object [(variant, .array values)]
  | .structVariant variant fields =>
      (fieldsToPairs fields).map fun pairs => .object [(variant, .ofPairs pairs)]
  | .sequence items => (itemsToValues items).map .array
  | .map entries => (entriesToPairs entries).map .ofPairs
  | .mapCalls calls => (callsToPairs none calls).map .ofPairs
  | .struct name fields =>
      (fieldsToPairs fields).bind fun pairs =>
        if name = fileStructName then fileOfEntries (Entries.ofList pairs)
        else .ok (.ofPairs pairs)
  | .failure message => .error (.raised message)

def itemsToValues : List Data → Except ConversionFault (List Value)
  | [] => .ok []
  | item :: rest =>
      item.toValue.bind fun value => (itemsToValues rest).map fun values => value :: values

def fieldsToPairs : List (String × Data) → Except ConversionFault (List (String × Value))
  | [] => .ok []
  | (name, field) :: rest =>
      field.toValue.bind fun value => (fieldsToPairs rest).map fun pairs => (name, value) :: pairs

/-- Each key comes before its value. -/
def entriesToPairs : List (Data × Data) → Except ConversionFault (List (String × Value))
  | [] => .ok []
  | (key, entry) :: rest =>
      key.toKey.bind fun name =>
        entry.toValue.bind fun value =>
          (entriesToPairs rest).map fun pairs => (name, value) :: pairs

/-- A key waits for the value that follows it. A later key takes its place, and one that
still waits at the end is dropped. -/
def callsToPairs :
    Option String → List (MapPart × Data) → Except ConversionFault (List (String × Value))
  | _, [] => .ok []
  | _, (.key, key) :: rest => key.toKey.bind fun name => callsToPairs (some name) rest
  | none, (.value, _) :: _ => .error .valueBeforeKey
  | some name, (.value, entry) :: rest =>
      entry.toValue.bind fun value =>
        (callsToPairs none rest).map fun pairs => (name, value) :: pairs

end

end ValueSchema
