import SpanRules.Unicode.Ranges

/-! # White space -/

namespace SpanRules.Unicode

/-- Code points with the property White_Space, in Unicode 17.0. -/
def whiteSpace : Ranges :=
  [(0x9, 0xD), (0x20, 0x20), (0x85, 0x85), (0xA0, 0xA0), (0x1680, 0x1680), (0x2000, 0x200A),
   (0x2028, 0x2029), (0x202F, 0x202F), (0x205F, 0x205F), (0x3000, 0x3000)]

/-- The character separates words. -/
def isWhiteSpace (c : Char) : Bool :=
  whiteSpace.covers c.toNat

end SpanRules.Unicode
