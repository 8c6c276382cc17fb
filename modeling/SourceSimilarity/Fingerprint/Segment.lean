import Std.Data.HashSet
import SourceSimilarity.Fingerprint.Match

/-!
# Shared segments

A stretch of text that two texts share shows as a run of matches along a diagonal. Here each maximal
run of a list of matches becomes one segment.
-/

namespace SourceSimilarity.Fingerprint

/-- A stretch of `length` characters at `left` in one text and at `right` in the other. -/
structure Segment where
  left : Nat
  right : Nat
  length : Nat
deriving DecidableEq, Repr

namespace Segment

/-- Ascending by left offset, then by right offset, then by length. -/
def precedes (a b : Segment) : Bool :=
  a.left < b.left || (a.left == b.left && (a.right < b.right ||
    (a.right == b.right && a.length ≤ b.length)))

/-- Longest first, and segments of one length by their offsets. -/
def outranks (a b : Segment) : Bool :=
  b.length < a.length || (a.length == b.length && a.precedes b)

end Segment

namespace Match

/-- The next match along the diagonal. -/
def next (m : Match) : Match :=
  ⟨m.left + 1, m.right + 1⟩

/-- No match of the set comes before this one along its diagonal. -/
def startsRun (matchSet : Std.HashSet Match) (m : Match) : Bool :=
  m.left == 0 || m.right == 0 || !matchSet.contains ⟨m.left - 1, m.right - 1⟩

/-- How many matches of the set follow each other along the diagonal from `m` on, looking at no more
than `limit`. -/
def runLength (matchSet : Std.HashSet Match) : Nat → Match → Nat
  | 0, _ => 0
  | limit + 1, m => if matchSet.contains m then runLength matchSet limit m.next + 1 else 0

end Match

/-- One segment for each maximal diagonal run of matches of windows of `width` characters,
ascending. A run is never longer than there are matches. -/
def diagonalSegments (found : List Match) (width : Nat) : List Segment :=
  if width = 0 then []
  else
    let matchSet := Std.HashSet.ofList found
    let starts := (matchSet.toList.filter (Match.startsRun matchSet)).mergeSort Match.precedes
    starts.map fun m => ⟨m.left, m.right, Match.runLength matchSet matchSet.size m + width - 1⟩

end SourceSimilarity.Fingerprint
