import SourceSimilarity.Batch.Basic

/-!
# Metrics

What a report says about a batch as a whole.
-/

namespace SourceSimilarity.Report

/-- The figures of a batch. A pair is flagged if its score reaches the threshold. -/
structure Metrics where
  documents : Nat
  pairsCompared : Nat
  average : Option Float
  highest : Option Float
  flaggedPairs : Nat
  threshold : Float

/-- The score of a pair reaches the threshold. -/
def isFlagged (threshold : Float) (pair : Batch.Pair) : Bool :=
  pair.score >= threshold

namespace Metrics

/-- The figures of a batch. Its pairs are ranked, so the first has the highest score. -/
def ofBatch (batch : Batch) (threshold : Float) : Metrics where
  documents := batch.comparedDocuments
  pairsCompared := batch.pairs.length
  average := batch.average
  highest := batch.pairs.head?.map Batch.Pair.score
  flaggedPairs := (batch.pairs.filter (isFlagged threshold)).length
  threshold := threshold

end Metrics

/-- What the highest score of a batch amounts to. -/
inductive Assessment where
  | nothingCompared
  | distinct
  | lowOverlap
  | moderateOverlap
  | suspicious
  | nearIdentical
deriving DecidableEq, Repr

namespace Assessment

/-- The assessment of the highest score. -/
def ofHighest : Option Float → Assessment
  | none => nothingCompared
  | some score =>
    if score < 0.3 then distinct
    else if score < 0.5 then lowOverlap
    else if score < 0.7 then moderateOverlap
    else if score < 0.9 then suspicious
    else nearIdentical

/-- What a report calls an assessment. -/
def label : Assessment → String
  | nothingCompared => "Nothing compared"
  | distinct => "Distinct"
  | lowOverlap => "Low overlap"
  | moderateOverlap => "Moderate overlap"
  | suspicious => "Suspicious"
  | nearIdentical => "Near-identical"

end Assessment

/-- How many pairs are shown unless all are asked for. -/
def defaultPairLimit : Nat :=
  20

/-- How many of `total` pairs are shown. -/
def displayLimit (total : Nat) (showAll : Bool) : Nat :=
  if showAll then total else min defaultPairLimit total

end SourceSimilarity.Report
