import SourceSimilarity.Corpus.Basic
import SourceSimilarity.Report.Summary

/-!
# The detailed report

The summary, and after it each pair with its score and the longest stretches of text that the two
documents share.
-/

namespace SourceSimilarity.Report

open Corpus Fingerprint

/-- How many characters of a shared stretch are shown. -/
def snippetLength : Nat :=
  60

/-- How many shared stretches are shown for a pair. -/
def segmentsPerPair : Nat :=
  5

/-- The label column is at least this wide. -/
def leastLabelWidth : Nat :=
  8

/-- The front of a shared stretch, on one line. Three dots tell that it goes on. -/
def snippet (text : Text) (start length : Nat) : Text :=
  let shown := ((text.drop start).take (min length snippetLength)).map fun c =>
    if c = '\n' then ' ' else c
  if snippetLength < length then shown ++ ['.', '.', '.'] else shown

/-- The extension and the size of a document. -/
def fileInfo (document : Document) : String :=
  document.extension.getD "-" ++ ", "
    ++ Decimal.fixed 1 (Float.ofNat document.size / 1024) ++ " KB"

/-- The line of one of the two documents of a pair. -/
def documentLine (corpus : Corpus) (width : Nat) (id : String) : String :=
  "   " ++ padRight id width ++ "  " ++ ((corpus.get? id).map fileInfo).getD ""

/-- What is said of a score. -/
def flagText (threshold : Float) (pair : Batch.Pair) : String :=
  if isFlagged threshold pair then "FLAGGED" else "ok"

/-- The line of a pair with its place in the ranking. -/
def pairLine (threshold : Float) (place : Nat) (pair : Batch.Pair) : String :=
  " [" ++ toString place ++ "] " ++ alignRight (hundredths pair.score) 6 ++ "%  "
    ++ flagText threshold pair ++ "  (k=" ++ toString pair.width ++ ")"

/-- The line of a shared stretch. -/
def segmentLine (text : Text) (segment : Segment) : String :=
  "   @" ++ toString segment.left ++ "/@" ++ toString segment.right ++ " ("
    ++ toString segment.length ++ " chars): "
    ++ String.ofList (snippet text segment.left segment.length)

/-- The lines that show what a pair shares, the longest stretches first. -/
def segmentLines (corpus : Corpus) (pair : Batch.Pair) : List String :=
  if pair.segments.isEmpty then []
  else
    let longest := (pair.segments.mergeSort Segment.outranks).take segmentsPerPair
    let text := (corpus.canonical? pair.left).getD []
    ["",
     " Shared segments: " ++ toString pair.segments.length ++ " ("
       ++ toString pair.matchedLength ++ " chars of left document)"]
    ++ longest.map (segmentLine text)
    ++ (if segmentsPerPair < pair.segments.length then ["   ..."] else [])

/-- All lines of a pair. -/
def pairLines (corpus : Corpus) (threshold : Float) (width place : Nat) (pair : Batch.Pair) :
    List String :=
  ["", separator reportWidth, pairLine threshold place pair,
   documentLine corpus width pair.left, documentLine corpus width pair.right]
  ++ segmentLines corpus pair

/-- The lines of pairs from a place in the ranking on. -/
def rankedLines (corpus : Corpus) (threshold : Float) (width : Nat) (place : Nat) :
    List Batch.Pair → List String
  | [] => []
  | pair :: rest =>
    pairLines corpus threshold width place pair
      ++ rankedLines corpus threshold width (place + 1) rest

/-- What is said if not all pairs are shown. -/
def remainderLines (shown total : Nat) : List String :=
  if shown < total then
    ["", " Showing top " ++ toString shown ++ " of " ++ toString total ++ " pairs.",
     " Use --show-all to see all pairs."]
  else []

/-- The detailed report on the pairs that are shown, as it is printed. -/
def detailed (metrics : Metrics) (pairs : List Batch.Pair) (total : Nat) (corpus : Corpus) :
    String :=
  summary metrics pairs ++
    if pairs.isEmpty then ""
    else
      let width := labelWidth (pairs.flatMap fun pair => [pair.left, pair.right]) leastLabelWidth
      printed
        (["", " Document Pairs (sorted by similarity)"]
          ++ rankedLines corpus metrics.threshold width 1 pairs
          ++ [separator reportWidth]
          ++ remainderLines pairs.length total)

end SourceSimilarity.Report
