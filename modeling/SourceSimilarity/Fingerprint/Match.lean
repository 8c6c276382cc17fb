import Std.Data.HashMap
import SourceSimilarity.Fingerprint.Hash

/-!
# Matching windows

Every pair of windows of two texts that have the same hash.
-/

namespace SourceSimilarity.Fingerprint

/-- For each hash the offsets at which it stands, ascending. -/
abbrev OffsetIndex := Std.HashMap UInt64 (List Nat)

namespace OffsetIndex

/-- The index of hashes of which the first stands at `offset`. -/
def ofHashesFrom (offset : Nat) : List UInt64 → OffsetIndex
  | [] => ∅
  | hash :: rest =>
    (ofHashesFrom (offset + 1) rest).alter hash fun later => some (offset :: later.getD [])

/-- The index of the hashes of a text. -/
def ofHashes (hashes : List UInt64) : OffsetIndex :=
  ofHashesFrom 0 hashes

/-- The offsets at which a hash stands, ascending. -/
def offsets (index : OffsetIndex) (hash : UInt64) : List Nat :=
  index.getD hash []

end OffsetIndex

/-- The offsets of two windows with the same hash. -/
structure Match where
  left : Nat
  right : Nat
deriving DecidableEq, Repr, Hashable

/-- Ascending by left offset, then by right offset. -/
def Match.precedes (a b : Match) : Bool :=
  a.left < b.left || (a.left == b.left && a.right ≤ b.right)

/-- The matches of the windows of the right text that stand at `offset` and after it. -/
def matchesFrom (index : OffsetIndex) (offset : Nat) : List UInt64 → List Match
  | [] => []
  | hash :: rest =>
    (index.offsets hash).map (Match.mk · offset) ++ matchesFrom index (offset + 1) rest

/-- All matches of two texts, ascending by left and then by right offset. The width is cut down to
the shorter text. -/
def findMatches (left right : Text) (width : Nat) : List Match :=
  if width = 0 ∨ left.isEmpty ∨ right.isEmpty then []
  else
    let width := clampWidth width left right
    (matchesFrom (.ofHashes (hashes left width)) 0 (hashes right width)).mergeSort Match.precedes

end SourceSimilarity.Fingerprint
