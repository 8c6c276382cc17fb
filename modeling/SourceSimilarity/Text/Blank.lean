import SourceSimilarity.Text.Basic

/-!
# Blank characters

The code points with the property White_Space.
-/

namespace SourceSimilarity.Text

/-- Ranges of blank characters, first and last included. -/
def blankRanges : List (Nat × Nat) :=
  [(0x9, 0xD), (0x20, 0x20), (0x85, 0x85), (0xA0, 0xA0), (0x1680, 0x1680), (0x2000, 0x200A),
   (0x2028, 0x2029), (0x202F, 0x202F), (0x205F, 0x205F), (0x3000, 0x3000)]

/-- Blank in any script. -/
def isBlank (c : Char) : Bool :=
  inRanges blankRanges c

end SourceSimilarity.Text
