import SourceSimilarity.Text.Blank
import SourceSimilarity.Canonical.Fragment

/-!
# Layout

A run of blanks becomes one newline if it holds one, and one space otherwise. Blanks at the two ends
of the document go; blanks at the ends of a fragment inside it stay.
-/

namespace SourceSimilarity.Canonical

open Text

/-- Collapse the runs of blanks in a text that stands after the unfinished run `pending`. -/
def collapseFrom : Option Char → Text → Text
  | pending, [] => pending.toList
  | pending, c :: rest =>
    if c = '\n' then collapseFrom (some '\n') rest
    else if isBlank c then collapseFrom (some (pending.getD ' ')) rest
    else pending.toList ++ c :: collapseFrom none rest

/-- One blank for each run of blanks. -/
def collapseBlanks (text : Text) : Text :=
  collapseFrom none text

namespace Fragment

/-- No blanks at the front of the document, if code stands there. -/
def trimStart : List Fragment → List Fragment
  | code text :: rest => code (text.dropWhile isBlank) :: rest
  | fragments => fragments

/-- No blanks at the end of the document, if code stands there. -/
def trimEnd : List Fragment → List Fragment
  | [] => []
  | [code text] => [code (dropTrailing isBlank text)]
  | fragment :: rest => fragment :: trimEnd rest

/-- The document without blanks at its ends. -/
def trim (fragments : List Fragment) : List Fragment :=
  trimEnd (trimStart fragments)

end Fragment

end SourceSimilarity.Canonical
