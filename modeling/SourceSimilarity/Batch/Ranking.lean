import SourceSimilarity.Batch.Pair
import SourceSimilarity.Decimal.Binary

/-!
# Ranking

The order of pairs in a result: best score first, then by the ids. Scores are ordered as bit
patterns, which is a total order also for numbers that compare with nothing.
-/

namespace SourceSimilarity.Batch

/-- A number that grows with the float: the bits themselves, and counted downward below zero. -/
def scoreKey (score : Float) : Int :=
  let bits := score.toBits.toNat
  if bits < Decimal.Binary.signBit then (bits : Int)
  else -((bits - Decimal.Binary.signBit : Nat) : Int) - 1

namespace Pair

/-- Best score first, then ascending by the left and the right id. -/
def rank (a b : Pair) : Ordering :=
  (Ord.compare (scoreKey b.score) (scoreKey a.score)).then
    ((Ord.compare a.left b.left).then (Ord.compare a.right b.right))

/-- `a` does not come after `b` in a ranking. -/
def ranksBefore (a b : Pair) : Bool :=
  (rank a b).isLE

end Pair

/-- The pairs in the order of a result. Pairs that rank alike keep their order. -/
def ranked (pairs : List Pair) : List Pair :=
  pairs.mergeSort Pair.ranksBefore

end SourceSimilarity.Batch
