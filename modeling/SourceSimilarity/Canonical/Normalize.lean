import SourceSimilarity.Canonical.Identifier
import SourceSimilarity.Canonical.Layout
import SourceSimilarity.Canonical.Number
import SourceSimilarity.Canonical.Scan

/-!
# Canonical texts

A source text in the form in which renamed variables, another layout, other comments and other
literal values no longer show.
-/

namespace SourceSimilarity.Canonical

/-- Code and literals of a source text, its comments gone. A scan that cut inside a character would
leave nothing, and none does. -/
def fragments (source : Text) : List Fragment :=
  ((Scan.fragments? source).getD []).flatMap Fragment.cutNumbers

/-- The fragments in canonical layout. -/
def laidOut (source : Text) : List Fragment :=
  Fragment.trim ((fragments source).map (Fragment.mapCode collapseBlanks))

/-- Code in lower case, with its words replaced. -/
def canonicalCode (reserved : ReservedWords) (code : Text) : Text :=
  replaceWords reserved code.lower

/-- The canonical form of a source text. -/
def normalizeWith (reserved : ReservedWords) (source : Text) : Text :=
  ((laidOut source).map (Fragment.mapCode (canonicalCode reserved))).flatMap Fragment.text

/-- The canonical form of a source text under the built-in reserved words. -/
def normalize (source : Text) : Text :=
  normalizeWith .builtin source

end SourceSimilarity.Canonical
