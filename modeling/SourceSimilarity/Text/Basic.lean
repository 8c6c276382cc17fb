/-!
# Texts and character classes

Offsets and lengths count characters, so a text is its list of characters. A class of characters
above ASCII is given by the ranges of its code points.
-/

namespace SourceSimilarity

/-- A text, character by character. -/
abbrev Text := List Char

namespace Text

/-- `c` lies in one of `ranges`, each given by its first and last code point. -/
def inRanges (ranges : List (Nat × Nat)) (c : Char) : Bool :=
  ranges.any fun r => r.1 ≤ c.toNat && c.toNat ≤ r.2

/-- `c` lies in one of `runs`, each given by its first and last code point and the step from one
member to the next. -/
def inRuns (runs : List (Nat × Nat × Nat)) (c : Char) : Bool :=
  runs.any fun (first, last, step) =>
    first ≤ c.toNat && c.toNat ≤ last && (c.toNat - first) % step == 0

/-- Code points above ASCII are looked up in tables; ASCII is decided by hand. -/
def isAscii (c : Char) : Bool :=
  c.toNat < 128

/-- The text without the blank (or other unwanted) characters at its end. -/
def dropTrailing (unwanted : Char → Bool) (text : Text) : Text :=
  (text.reverse.dropWhile unwanted).reverse

/-- The parts of a text between separators. -/
def splitAt (separator : Char) : Text → List Text
  | [] => [[]]
  | c :: rest =>
    if c = separator then [] :: splitAt separator rest
    else match splitAt separator rest with
      | part :: parts => (c :: part) :: parts
      | [] => [[c]]

end Text

end SourceSimilarity
