import ValueSchema.Number.Decimal

/-!
JSON as a tree, and its compact text.
-/

namespace ValueSchema

/-- Members keep their order and may repeat a name. Integers and other numbers are apart,
as they are in the text. -/
inductive Json where
  | null
  | boolean (truth : Bool)
  | integer (n : Int)
  | real (n : Binary64)
  | string (text : String)
  | array (items : List Json)
  | object (members : List (String × Json))

namespace Json

/-! ## Strings -/

/-- A character inside a string. Only the quote, the backslash and controls are escaped. -/
def escapedChar (c : Char) : List Char :=
  if c = '"' then ['\\', '"']
  else if c = '\\' then ['\\', '\\']
  else if c = '\x08' then ['\\', 'b']
  else if c = '\x0c' then ['\\', 'f']
  else if c = '\n' then ['\\', 'n']
  else if c = '\r' then ['\\', 'r']
  else if c = '\t' then ['\\', 't']
  else if c.toNat < 0x20 then
    ['\\', 'u', '0', '0', Nat.digitChar (c.toNat / 16), Nat.digitChar (c.toNat % 16)]
  else [c]

def stringChars (text : String) : List Char :=
  '"' :: text.toList.flatMap escapedChar ++ ['"']

/-! ## Trees -/

mutual

/-- The text of a tree, without any white space. A number that is not finite has no text of
its own and is written as null. -/
def chars : Json → List Char
  | .null => "null".toList
  | .boolean truth => if truth then "true".toList else "false".toList
  | .integer n => (toString n).toList
  | .real n => ((n.fractionalText).getD "null").toList
  | .string text => stringChars text
  | .array items => '[' :: itemsChars items ++ [']']
  | .object members => '\x7b' :: membersChars members ++ ['\x7d']

def itemsChars : List Json → List Char
  | [] => []
  | [item] => item.chars
  | item :: rest => item.chars ++ ',' :: itemsChars rest

def membersChars : List (String × Json) → List Char
  | [] => []
  | [(name, member)] => stringChars name ++ ':' :: member.chars
  | (name, member) :: rest => stringChars name ++ ':' :: member.chars ++ ',' :: membersChars rest

end

def text (json : Json) : String := String.ofList json.chars

end Json

end ValueSchema
