import SourceSimilarity.Decimal.Notation
import SourceSimilarity.Report.Layout
import SourceSimilarity.Report.Metrics

/-!
# The summary

The figures of a batch, one a line.
-/

namespace SourceSimilarity.Report

/-- The width of a report. -/
def reportWidth : Nat :=
  68

/-- The width of a figure. -/
def figureWidth : Nat :=
  42

/-- A share as a number of hundredths with one place. -/
def hundredths (share : Float) : String :=
  Decimal.fixed 1 (share * 100)

/-- A share in per cent, or a dash. -/
def percent : Option Float → String
  | some share => hundredths share ++ "%"
  | none => "-"

/-- A line with its caption and its figure. -/
def figureLine (caption figure : String) : String :=
  caption ++ alignRight figure figureWidth

/-- The line that names the pair with the highest score. -/
def topPairLine : List Batch.Pair → List String
  | [] => []
  | top :: _ => [figureLine " Most similar pair:    " (top.left ++ " / " ++ top.right)]

/-- The lines of a summary. -/
def summaryLines (metrics : Metrics) (pairs : List Batch.Pair) : List String :=
  [separator reportWidth,
   " Similarity Analysis",
   "",
   figureLine " Documents compared:   " (toString metrics.documents),
   figureLine " Pairs compared:       " (toString metrics.pairsCompared),
   figureLine " Average similarity:   " (percent metrics.average),
   figureLine " Highest similarity:   " (percent metrics.highest)]
  ++ topPairLine pairs ++
  ["",
   figureLine (" Flagged (>= " ++ alignRight (hundredths metrics.threshold) 5 ++ "%):  ")
     (toString metrics.flaggedPairs),
   "",
   figureLine " Assessment:           " (Assessment.ofHighest metrics.highest).label,
   separator reportWidth]

/-- The summary as it is printed. -/
def summary (metrics : Metrics) (pairs : List Batch.Pair) : String :=
  printed (summaryLines metrics pairs)

end SourceSimilarity.Report
