import ContractLexer.Text.CodeRange

/-!
# White space

The property White_Space of Unicode 17: twenty-five characters in ten ranges.
-/

namespace ContractLexer
namespace Whitespace

/-- The white-space ranges, in ascending order. -/
def ranges : List CodeRange :=
  [(0x9, 0xd), (0x20, 0x20), (0x85, 0x85), (0xa0, 0xa0), (0x1680, 0x1680),
   (0x2000, 0x200a), (0x2028, 0x2029), (0x202f, 0x202f), (0x205f, 0x205f),
   (0x3000, 0x3000)]

theorem ascending_ranges :
    CodeRange.ascending ranges = true := by
  decide +kernel

end Whitespace

/-- The character has the property White_Space. -/
def isWhitespace (c : Char) : Bool :=
  CodeRange.search Whitespace.ranges c.toNat

end ContractLexer
