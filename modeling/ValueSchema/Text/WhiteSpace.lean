/-!
The characters with the property White_Space of Unicode: 25 in ten ranges. White space in
the core library is four of them.
-/

namespace ValueSchema

/-- Closed ranges of code points, ascending and apart. -/
def whiteSpaceRanges : List (Nat × Nat) :=
  [(0x9, 0xD), (0x20, 0x20), (0x85, 0x85), (0xA0, 0xA0), (0x1680, 0x1680), (0x2000, 0x200A),
   (0x2028, 0x2029), (0x202F, 0x202F), (0x205F, 0x205F), (0x3000, 0x3000)]

/-- Whether a character lies in one of the ranges. -/
def inRanges (ranges : List (Nat × Nat)) (c : Char) : Bool :=
  ranges.any fun range => range.1 ≤ c.toNat && c.toNat ≤ range.2

def isWhiteSpace (c : Char) : Bool := inRanges whiteSpaceRanges c

end ValueSchema
