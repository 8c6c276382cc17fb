import SourceSimilarity.Decimal.Notation
import SourceSimilarity.Json.Value
import SourceSimilarity.Report.Metrics

/-!
# The report as JSON
-/

namespace SourceSimilarity.Report

open Json Fingerprint

/-- A float, or null if JSON has no text for it. -/
def floatValue (x : Float) : Value :=
  .ofNumber? (Decimal.jsonNumber? x)

/-- A float that may be missing. -/
def optionalFloat (x : Option Float) : Value :=
  .ofNumber? (x.bind Decimal.jsonNumber?)

/-- The figures of a batch. -/
def metricsValue (metrics : Metrics) : Value :=
  .object [
    ("documents", .ofNat metrics.documents),
    ("pairs_compared", .ofNat metrics.pairsCompared),
    ("average_similarity", optionalFloat metrics.average),
    ("highest_similarity", optionalFloat metrics.highest),
    ("threshold", floatValue metrics.threshold),
    ("flagged_pairs", .ofNat metrics.flaggedPairs),
    ("assessment", .string (Assessment.ofHighest metrics.highest).label)]

/-- A shared stretch of text. -/
def segmentValue (segment : Segment) : Value :=
  .object [
    ("start1", .ofNat segment.left),
    ("start2", .ofNat segment.right),
    ("len", .ofNat segment.length)]

/-- A pair with what it shares. -/
def pairValue (pair : Batch.Pair) : Value :=
  .object [
    ("left", .string pair.left),
    ("right", .string pair.right),
    ("score", floatValue pair.score),
    ("k", .ofNat pair.width),
    ("segments", .array (pair.segments.map segmentValue))]

/-- The report as it is printed. -/
def json (metrics : Metrics) (skipped : List String) (pairs : List Batch.Pair) : String :=
  (Value.object [
    ("metrics", metricsValue metrics),
    ("skipped", .array (skipped.map Value.string)),
    ("pairs", .array (pairs.map pairValue))]).text ++ "\n"

end SourceSimilarity.Report
