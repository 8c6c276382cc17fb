import Std.Data.HashSet
import SourceSimilarity.Fingerprint.Hash

/-!
# Overlap of two fingerprints

Two texts are compared by the sets of their window hashes. The score is the share of common hashes
among all hashes of the two.
-/

namespace SourceSimilarity.Fingerprint

/-- The different hashes among the windows of a text. -/
def hashSet (text : Text) (width : Nat) : Std.HashSet UInt64 :=
  Std.HashSet.ofList (hashes text width)

/-- The different hashes among the windows of a text, ascending. -/
def distinctHashes (text : Text) (width : Nat) : List UInt64 :=
  (hashSet text width).toList.mergeSort fun a b => a ≤ b

/-- How many hashes two sets share, out of how many in all. -/
structure Overlap where
  shared : Nat
  total : Nat
deriving DecidableEq, Repr

namespace Overlap

/-- The overlap of two sets of hashes. -/
def ofSets (left right : Std.HashSet UInt64) : Overlap :=
  let shared := (left.toList.filter right.contains).length
  { shared, total := left.size + right.size - shared }

/-- The overlap of two texts whose windows are cut down to the shorter text. -/
def ofTexts (left right : Text) (width : Nat) : Overlap :=
  let width := clampWidth width left right
  ofSets (hashSet left width) (hashSet right width)

/-- The share as a number. Where there is nothing on either side, nothing differs. -/
def score (overlap : Overlap) : Float :=
  if overlap.total = 0 then 1.0
  else Float.ofNat overlap.shared / Float.ofNat overlap.total

end Overlap

/-- Why two texts cannot be scored. -/
inductive ScoreError where
  | zeroWidth
deriving DecidableEq, Repr

namespace ScoreError

/-- What is said of a score that cannot be given. -/
def message : ScoreError → String
  | zeroWidth => "invalid argument: k-gram size must be positive"

end ScoreError

/-- How alike two texts are, from 0 to 1. Two empty texts are alike, an empty text and another one
are not. -/
def similarity (left right : Text) (width : Nat) : Except ScoreError Float :=
  if width = 0 then .error .zeroWidth
  else match left.isEmpty, right.isEmpty with
    | true, true => .ok 1.0
    | false, false => .ok (Overlap.ofTexts left right width).score
    | _, _ => .ok 0.0

end SourceSimilarity.Fingerprint
