import SourceSimilarity.Batch.Ranking
import SourceSimilarity.Corpus.Basic

/-!
# Batches

All pairs of a corpus, compared. Documents of which nothing is left are set aside first.
-/

namespace SourceSimilarity

/-- The pairs of a corpus, best first, with their mean score if there are any. -/
structure Batch where
  comparedDocuments : Nat
  skipped : List String
  pairs : List Batch.Pair
  average : Option Float

namespace Batch

open Corpus Fingerprint

/-- Every element with each one behind it. -/
def pairsOf {α : Type} : List α → List (α × α)
  | [] => []
  | a :: rest => rest.map (fun b => (a, b)) ++ pairsOf rest

/-- The mean of the scores, added in their order. -/
def mean : List Float → Option Float
  | [] => none
  | scores => some (scores.foldl (· + ·) 0 / Float.ofNat scores.length)

/-- Compare every document that is not blank with every other one. -/
def ofCorpus (corpus : Corpus) (width : Nat) (locate : Bool) : Except ScoreError Batch :=
  if width = 0 then .error .zeroWidth
  else
    let comparable := corpus.documents.filter fun document => !document.isBlank
    let blank := corpus.documents.filter Document.isBlank
    match (pairsOf comparable).mapM fun (left, right) => Pair.compare left right width locate with
    | .error cause => .error cause
    | .ok pairs =>
      let pairs := ranked pairs
      .ok {
        comparedDocuments := comparable.length
        skipped := blank.map Document.id
        pairs := pairs
        average := mean (pairs.map Pair.score) }

end Batch

end SourceSimilarity
