import SourceSimilarity.Text.Case
import SourceSimilarity.Files.Path

/-!
# Documents

A text in canonical form, with what a report says about where it came from.
-/

namespace SourceSimilarity.Corpus

/-- How many bytes a text takes in UTF-8. -/
def byteSize (text : Text) : Nat :=
  (String.ofList text).utf8ByteSize

/-- A canonical text, the bytes of the raw text, and the extension in lower case. -/
structure Document where
  id : String
  canonical : Text
  size : Nat
  extension : Option String
deriving DecidableEq, Repr

namespace Document

/-- A document whose id is read as a path to find its extension. -/
def ofCanonical (id : String) (size : Nat) (canonical : Text) : Document where
  id := id
  canonical := canonical
  size := size
  extension := (Files.Path.extension? id).map lowerString

/-- Nothing was left of the text. -/
def isBlank (document : Document) : Bool :=
  document.canonical.isEmpty

end Document

end SourceSimilarity.Corpus
