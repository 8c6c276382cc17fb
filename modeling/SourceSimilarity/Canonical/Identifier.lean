import SourceSimilarity.Text.Word
import SourceSimilarity.Canonical.Fragment
import SourceSimilarity.Canonical.ReservedWords

/-!
# Identifiers

Every word that is not reserved looks the same in a canonical text.
-/

namespace SourceSimilarity.Canonical

open Text

/-- What a canonical text shows for a word that is not reserved. -/
def placeholder : Text :=
  ['v', 'a', 'r']

/-- What a canonical text shows for a word. The token of a number stays, so that a canonical text is
its own canonical text. -/
def canonicalWord (reserved : ReservedWords) (word : Text) : Text :=
  if word = Literal.number.text then word
  else match reserved.lookup (String.ofList word) with
    | some entry => entry.toList
    | none => placeholder

/-- The unfinished word `word`, given backwards, once it is finished. -/
def finishWord (reserved : ReservedWords) (word : Text) : Text :=
  if word.isEmpty then [] else canonicalWord reserved word.reverse

/-- Replace the words of a text that stands after the unfinished word `word`, given backwards. -/
def replaceWordsFrom (reserved : ReservedWords) (word : Text) : Text → Text
  | [] => finishWord reserved word
  | c :: rest =>
    if isWord c then replaceWordsFrom reserved (c :: word) rest
    else finishWord reserved word ++ c :: replaceWordsFrom reserved [] rest

/-- Replace every word by what a canonical text shows for it, and copy what stands between. -/
def replaceWords (reserved : ReservedWords) (text : Text) : Text :=
  replaceWordsFrom reserved [] text

end SourceSimilarity.Canonical
