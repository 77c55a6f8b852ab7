import ValueSchema.Json

/-!
Reading the text of JSON. Arrays and objects may be nested 127 deep.
-/

namespace ValueSchema.Json

-- Powers are those of core, also beside a library with powers of its own.
attribute [local instance (2000)] instPowNat

def isSpace (c : Char) : Bool := c = ' ' || c = '\t' || c = '\n' || c = '\r'

def skipSpace (text : List Char) : List Char := text.dropWhile isSpace

/-! ## Strings -/

/-- A unit of a string: a character that stands for itself or for another one, or a code of
sixteen bits, which may be half of a surrogate pair. -/
inductive StringUnit where
  | plain (c : Char)
  | code (n : Nat)
  deriving DecidableEq

def hexDigit? (c : Char) : Option Nat :=
  if '0' ≤ c ∧ c ≤ '9' then some (c.toNat - '0'.toNat)
  else if 'a' ≤ c ∧ c ≤ 'f' then some (c.toNat - 'a'.toNat + 10)
  else if 'A' ≤ c ∧ c ≤ 'F' then some (c.toNat - 'A'.toNat + 10)
  else none

/-- What a letter stands for behind a backslash. -/
def escapeLetter? (c : Char) : Option Char :=
  if c = '"' ∨ c = '\\' ∨ c = '/' then some c
  else if c = 'b' then some '\x08'
  else if c = 'f' then some '\x0c'
  else if c = 'n' then some '\n'
  else if c = 'r' then some '\r'
  else if c = 't' then some '\t'
  else none

/-- The units up to the closing quote, and the text behind it. -/
def readUnits : List Char → Option (List StringUnit × List Char)
  | [] => none
  | '"' :: rest => some ([], rest)
  | '\\' :: 'u' :: a :: b :: c :: d :: rest => do
      let code := 4096 * (← hexDigit? a) + 256 * (← hexDigit? b) + 16 * (← hexDigit? c) +
        (← hexDigit? d)
      let (units, rest) ← readUnits rest
      some (.code code :: units, rest)
  | '\\' :: letter :: rest => do
      let c ← escapeLetter? letter
      let (units, rest) ← readUnits rest
      some (.plain c :: units, rest)
  | c :: rest =>
      if c = '\\' ∨ c.toNat < 0x20 then none
      else (readUnits rest).map fun (units, rest) => (.plain c :: units, rest)

/-- The characters of units. Surrogates must come in pairs. -/
def joinUnits : List StringUnit → Option (List Char)
  | [] => some []
  | .plain c :: rest => (joinUnits rest).map (c :: ·)
  | .code high :: .code low :: rest =>
      if 0xD800 ≤ high ∧ high < 0xDC00 then
        if 0xDC00 ≤ low ∧ low < 0xE000 then
          (joinUnits rest).map
            (Char.ofNat (0x10000 + 0x400 * (high - 0xD800) + (low - 0xDC00)) :: ·)
        else none
      else if 0xDC00 ≤ high ∧ high < 0xE000 then none
      else (joinUnits (.code low :: rest)).map (Char.ofNat high :: ·)
  | .code n :: rest =>
      if 0xD800 ≤ n ∧ n < 0xE000 then none else (joinUnits rest).map (Char.ofNat n :: ·)

/-- A string whose opening quote has been read. -/
def readString (text : List Char) : Option (String × List Char) := do
  let (units, rest) ← readUnits text
  let content ← joinUnits units
  some (String.ofList content, rest)

/-! ## Numbers

A number that is no integer of 64 bits is made of a significand of 64 bits and a power of
ten, by one multiplication or division. Digits that no longer fit into the significand are
dropped, so the last digit of such a number may differ from the nearest one. -/

/-- Appends digits to a significand as long as it stays below `2 ^ 64`, and counts those
that are left over. -/
def absorb : Nat → List Char → Nat × Nat
  | significand, [] => (significand, 0)
  | significand, digit :: rest =>
      let next := 10 * significand + (digit.toNat - 48)
      if next < 2 ^ (64 : Nat) then absorb next rest else (significand, rest.length + 1)

/-- Applies a power of ten. One that is too small for a number is applied in two steps,
behind which nothing is left. -/
def scaled (significand : Nat) (exponent : Int) : Binary64 :=
  let number := Binary64.ofNat significand
  let power (exponent : Nat) := Binary64.ofNat (10 ^ exponent)
  if significand = 0 then number
  else if 308 < exponent then .infinite false
  else if 0 ≤ exponent then number.mul (power exponent.toNat)
  else if -308 ≤ exponent then number.div (power (-exponent).toNat)
  else if -616 ≤ exponent then (number.div (power 308)).div (power (-exponent - 308).toNat)
  else .zero

/-- A number from its parts; it must be in range. -/
def real? (negative : Bool) (significand : Nat) (exponent : Int) : Option Json :=
  let number := scaled significand exponent
  if number.isFinite then some (.real (if negative then number.negate else number)) else none

/-- The digits behind the point, of which there is at least one when there is a point. -/
def readFraction : List Char → Option (List Char × List Char)
  | '.' :: rest =>
      let digits := rest.takeWhile Char.isDigit
      if digits = [] then none else some (digits, rest.dropWhile Char.isDigit)
  | text => some ([], text)

/-- The exponent, if there is one. -/
def readExponent (text : List Char) : Option (Option Int × List Char) :=
  match text with
  | mark :: rest =>
      if mark = 'e' ∨ mark = 'E' then
        let negative := rest.head? = some '-'
        let rest := if rest.head? = some '-' ∨ rest.head? = some '+' then rest.drop 1 else rest
        let digits := rest.takeWhile Char.isDigit
        let size := (Nat.ofDigitChars 10 digits 0 : Int)
        if digits = [] then none
        else some (some (if negative then -size else size), rest.dropWhile Char.isDigit)
      else some (none, text)
  | [] => some (none, [])

/-- The number of a significand without a fraction and an exponent. Minus zero is no
integer. -/
def integer? (negative : Bool) (significand : Nat) : Option Json :=
  if !negative then some (.integer significand)
  else if 0 < significand ∧ significand ≤ 2 ^ (63 : Nat) then
    some (.integer (-(significand : Int)))
  else real? true significand 0

def readNumber (text : List Char) : Option (Json × List Char) := do
  let negative := text.head? = some '-'
  let rest := if negative then text.drop 1 else text
  let whole := rest.takeWhile Char.isDigit
  if whole = [] ∨ whole.head? = some '0' ∧ 1 < whole.length then none
  else
    let (fraction, rest) ← readFraction (rest.dropWhile Char.isDigit)
    let (exponent, rest) ← readExponent rest
    let (significand, dropped) := absorb 0 whole
    let json ←
      if fraction = [] ∧ exponent = none ∧ dropped = 0 then integer? negative significand
      else
        let (significand, unused) := absorb significand fraction
        real? negative significand
          (dropped - ((fraction.length : Int) - unused) + exponent.getD 0)
    some (json, rest)

/-! ## Trees -/

/-- The items of an array whose bracket has been read, at most as many as `fuel` says. -/
def readItems (read : List Char → Option (Json × List Char)) :
    Nat → List Char → Option (List Json × List Char)
  | 0, _ => none
  | fuel + 1, text => do
      let (item, rest) ← read text
      match skipSpace rest with
      | ']' :: rest => some ([item], rest)
      | ',' :: rest => (readItems read fuel rest).map fun (items, rest) => (item :: items, rest)
      | _ => none

/-- The members of an object whose brace has been read, at most as many as `fuel` says. -/
def readMembers (read : List Char → Option (Json × List Char)) :
    Nat → List Char → Option (List (String × Json) × List Char)
  | 0, _ => none
  | fuel + 1, text =>
      match skipSpace text with
      | '"' :: rest => do
          let (name, rest) ← readString rest
          match skipSpace rest with
          | ':' :: rest => do
              let (member, rest) ← read rest
              match skipSpace rest with
              | '\x7d' :: rest => some ([(name, member)], rest)
              | ',' :: rest =>
                  (readMembers read fuel rest).map fun (members, rest) =>
                    ((name, member) :: members, rest)
              | _ => none
          | _ => none
      | _ => none

/-- A tree with at most so many levels of arrays and objects. Each item and each member
takes at least one character, so the length of the text is fuel enough. -/
def readTree (levels : Nat) (text : List Char) : Option (Json × List Char) :=
  match skipSpace text with
  | 'n' :: 'u' :: 'l' :: 'l' :: rest => some (.null, rest)
  | 't' :: 'r' :: 'u' :: 'e' :: rest => some (.boolean true, rest)
  | 'f' :: 'a' :: 'l' :: 's' :: 'e' :: rest => some (.boolean false, rest)
  | '"' :: rest => (readString rest).map fun (text, rest) => (.string text, rest)
  | '[' :: rest =>
      match levels with
      | 0 => none
      | levels + 1 =>
          match skipSpace rest with
          | ']' :: rest => some (.array [], rest)
          | rest =>
              (readItems (readTree levels) rest.length rest).map fun (items, rest) =>
                (.array items, rest)
  | '\x7b' :: rest =>
      match levels with
      | 0 => none
      | levels + 1 =>
          match skipSpace rest with
          | '\x7d' :: rest => some (.object [], rest)
          | rest =>
              (readMembers (readTree levels) rest.length rest).map fun (members, rest) =>
                (.object members, rest)
  | rest => readNumber rest

def greatestDepth : Nat := 127

/-- Reads a text that holds one tree and nothing else. -/
def parse? (text : String) : Option Json := do
  let (json, rest) ← readTree greatestDepth text.toList
  if skipSpace rest = [] then some json else none

end ValueSchema.Json
