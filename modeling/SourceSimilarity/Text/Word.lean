import SourceSimilarity.Text.Basic
import SourceSimilarity.Text.WordTable

/-!
# Word characters

Letters and digits of every script, and the underscore.
-/

namespace SourceSimilarity.Text

/-- A character of a word: a letter or digit of any script, or the underscore. -/
def isWord (c : Char) : Bool :=
  c.isAlphanum || c == '_' || (!isAscii c && inRanges alphanumericRanges c)

/-- The letters and digits of ASCII are word characters. -/
theorem isWord_of_isAlphanum {c : Char} (h : c.isAlphanum) : isWord c := by
  simp [isWord, h]

end SourceSimilarity.Text
