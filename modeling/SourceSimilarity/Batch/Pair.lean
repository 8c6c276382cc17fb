import SourceSimilarity.Corpus.Document
import SourceSimilarity.Fingerprint.Overlap
import SourceSimilarity.Fingerprint.Tiling

/-!
# Pairs

The comparison of two documents: how alike they are and, if asked for, where.
-/

namespace SourceSimilarity.Batch

open Corpus Fingerprint

/-- Two documents by their ids, their score, the width that was used for them, and what they share.
-/
structure Pair where
  left : String
  right : String
  score : Float
  width : Nat
  segments : List Segment

namespace Pair

/-- Compare two documents. Locating what they share costs more than scoring them, so it is done on
demand. -/
def compare (left right : Document) (width : Nat) (locate : Bool) : Except ScoreError Pair :=
  match similarity left.canonical right.canonical width with
  | .error cause => .error cause
  | .ok score =>
    let used := clampWidth width left.canonical right.canonical
    .ok {
      left := left.id
      right := right.id
      score := score
      width := used
      segments := if locate then tile left.canonical right.canonical used else [] }

/-- How many characters of the left document lie in a shared segment. -/
def matchedLength (pair : Pair) : Nat :=
  coveredLength pair.segments

end Pair

end SourceSimilarity.Batch
