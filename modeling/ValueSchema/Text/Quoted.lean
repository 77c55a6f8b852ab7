import ValueSchema.Text.Unprintable
import ValueSchema.Text.WhiteSpace

/-!
Text in double quotes, with escapes for everything that would not show as itself, and lists
of such texts.
-/

namespace ValueSchema

/-- A character of quoted text. Those without a letter of their own are escaped by their
code point when they are controls or unprintable. -/
def quotedChar (c : Char) : List Char :=
  if c = '\x00' then ['\\', '0']
  else if c = '\t' then ['\\', 't']
  else if c = '\r' then ['\\', 'r']
  else if c = '\n' then ['\\', 'n']
  else if c = '\\' then ['\\', '\\']
  else if c = '"' then ['\\', '"']
  else if c.toNat < 0x20 ∨ inRanges unprintableRanges c then
    ['\\', 'u', '\x7b'] ++ Nat.toDigits 16 c.toNat ++ ['\x7d']
  else [c]

def quoted (text : String) : String :=
  String.ofList ('"' :: text.toList.flatMap quotedChar ++ ['"'])

/-- Items between brackets, separated by commas. -/
def bracketed (items : List String) : String := "[" ++ ", ".intercalate items ++ "]"

example : quoted "a\"b\n" = "\"a\\\"b\\n\"" := by decide +kernel

end ValueSchema
