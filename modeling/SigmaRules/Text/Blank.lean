/-
SigmaRules/Text/Blank.lean

White space in text, in the widest of its senses: the separators and line
ends of Unicode together with the ASCII controls from tab to carriage
return and the four information separators.
-/
import SigmaRules.Text.Ranges

namespace SigmaRules.Text

/-- The white space characters. -/
def blanks : Ranges := [
    (0x9, 0xD), (0x1C, 0x20), (0x85, 0x85), (0xA0, 0xA0), (0x1680, 0x1680), (0x2000, 0x200A),
    (0x2028, 0x2029), (0x202F, 0x202F), (0x205F, 0x205F), (0x3000, 0x3000)]

/-- Is the character white space? -/
def isBlank (c : Char) : Bool := blanks.contains c.toNat

/-- ASCII white space, as bytes: tab, line feed, vertical tab, form feed,
carriage return and space. -/
def isBlankByte (b : UInt8) : Bool := b == 32 || (9 ≤ b && b ≤ 13)

/-- Text without the white space at its ends. -/
def strip (s : List Char) : List Char :=
  ((s.dropWhile isBlank).reverse.dropWhile isBlank).reverse

end SigmaRules.Text
