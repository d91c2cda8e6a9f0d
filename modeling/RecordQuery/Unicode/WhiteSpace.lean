import RecordQuery.Unicode.CodeRanges

/-!
# Blanks

The property White_Space of Unicode 17.0: 25 characters, among them the no-break spaces and the
line and paragraph separators, but not the zero-width space.
-/
namespace RecordQuery.Unicode

/-- Code points with the property White_Space. -/
def whiteSpaceRanges : CodeRanges := [
  (0x9, 0xD), (0x20, 0x20), (0x85, 0x85), (0xA0, 0xA0), (0x1680, 0x1680), (0x2000, 0x200A),
  (0x2028, 0x2029), (0x202F, 0x202F), (0x205F, 0x205F), (0x3000, 0x3000)]

def isWhiteSpace (c : Char) : Bool :=
  whiteSpaceRanges.contains c.toNat

end RecordQuery.Unicode
