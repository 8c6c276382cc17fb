import Mathlib.Data.List.FinRange
import Mathlib.Data.Nat.Choose.Basic
import SourceSimilarity.Batch.Basic
import SourceSimilarity.Proofs.Batch.Ranking
import SourceSimilarity.Proofs.Fingerprint.Overlap

/-!
# Batches compare all pairs

A batch holds the comparison of every document that is not blank with every later one, each once,
in the order of a ranking. Locating what documents share adds the segments and changes nothing else.
-/

namespace SourceSimilarity

open Corpus Fingerprint

/-- The documents that are compared: those of which something is left. -/
def Corpus.comparable (corpus : Corpus) : List Document :=
  corpus.documents.filter fun document => !document.isBlank

theorem Corpus.mem_documents_of_mem_comparable {corpus : Corpus} {document : Document}
    (h : document ∈ corpus.comparable) : document ∈ corpus.documents :=
  (List.mem_filter.mp h).1

namespace Batch

/-! ## One pair -/

namespace Pair

/-- The comparison of two documents where it can be made, that is for every width but zero. -/
def ofDocuments (left right : Document) (width : Nat) (locate : Bool) : Pair where
  left := left.id
  right := right.id
  score := scoreOf left.canonical right.canonical width
  width := clampWidth width left.canonical right.canonical
  segments := if locate then
    tile left.canonical right.canonical (clampWidth width left.canonical right.canonical) else []

theorem compare_eq_ok (left right : Document) {width : Nat} (hwidth : 0 < width) (locate : Bool) :
    Pair.compare left right width locate = .ok (ofDocuments left right width locate) := by
  rw [Pair.compare, similarity_eq_ok _ _ hwidth]
  rfl

theorem withoutSegments_ofDocuments (left right : Document) (width : Nat) (locate : Bool) :
    (ofDocuments left right width locate).withoutSegments = ofDocuments left right width false :=
  rfl

end Pair

/-! ## All pairs -/

/-- The places of `n` things, each with every later one. -/
def laterPairs (n : Nat) : List (Fin n × Fin n) :=
  (List.finRange n).flatMap fun i => ((List.finRange n).filter (i < ·)).map fun j => (i, j)

theorem filter_zero_lt_finRange (n : Nat) :
    (List.finRange (n + 1)).filter (0 < ·) = (List.finRange n).map Fin.succ := by
  rw [List.finRange_succ, List.filter_cons_of_neg (by simp), List.filter_map]
  congr 1
  exact List.filter_eq_self.mpr fun i _ => by simp

theorem filter_succ_lt_finRange {n : Nat} (i : Fin n) :
    (List.finRange (n + 1)).filter (i.succ < ·) =
      ((List.finRange n).filter (i < ·)).map Fin.succ := by
  rw [List.finRange_succ, List.filter_cons_of_neg (by simp), List.filter_map]
  congr 1
  exact List.filter_congr fun j _ => by simp

theorem laterPairs_succ (n : Nat) :
    laterPairs (n + 1) =
      (List.finRange n).map (fun j => (0, j.succ)) ++
        (laterPairs n).map (Prod.map Fin.succ Fin.succ) := by
  have hsucc : ((List.finRange n).map Fin.succ).flatMap (fun i =>
      ((List.finRange (n + 1)).filter (i < ·)).map fun j => (i, j)) =
        (laterPairs n).map (Prod.map Fin.succ Fin.succ) := by
    rw [List.flatMap_map, laterPairs, List.map_flatMap]
    refine List.flatMap_congr fun i _ => ?_
    rw [filter_succ_lt_finRange, List.map_map, List.map_map]
    rfl
  rw [← hsucc, laterPairs, List.finRange_succ, List.flatMap_cons, ← List.finRange_succ,
    filter_zero_lt_finRange, List.map_map]
  rfl

section PairsOf

variable {α : Type}

/-- The pairs of a list are those of an earlier with a later place. -/
theorem pairsOf_eq_map_laterPairs (l : List α) :
    pairsOf l = (laterPairs l.length).map fun place => (l.get place.1, l.get place.2) := by
  induction l with
  | nil => rfl
  | cons a rest ih =>
    have hfirst : rest.map (fun b => (a, b)) =
        (List.finRange rest.length).map fun j => (a, rest.get j) := by
      conv_lhs => rw [← List.map_get_finRange rest, List.map_map]
      rfl
    calc pairsOf (a :: rest)
        = (List.finRange rest.length).map (fun j => (a, rest.get j)) ++
            (laterPairs rest.length).map fun place => (rest.get place.1, rest.get place.2) := by
          rw [pairsOf, hfirst, ih]
      _ = (laterPairs (rest.length + 1)).map fun place =>
            ((a :: rest).get place.1, (a :: rest).get place.2) := by
          rw [laterPairs_succ, List.map_append, List.map_map, List.map_map]
          rfl

theorem length_pairsOf (l : List α) :
    (pairsOf l).length = l.length * (l.length - 1) / 2 := by
  rw [← Nat.choose_two_right]
  induction l with
  | nil => rfl
  | cons a rest ih =>
    rw [pairsOf, List.length_append, List.length_map, ih, List.length_cons, Nat.choose_succ_succ,
      Nat.choose_one_right]

theorem pairsOf_eq_nil_iff {l : List α} : pairsOf l = [] ↔ l.length < 2 := by
  match l with
  | [] => simp [pairsOf]
  | [a] => simp [pairsOf]
  | a :: b :: rest => simp [pairsOf]

theorem mem_of_mem_pairsOf {l : List α} {p : α × α} (h : p ∈ pairsOf l) : p.1 ∈ l ∧ p.2 ∈ l := by
  induction l with
  | nil => cases h
  | cons a rest ih =>
    rw [pairsOf, List.mem_append, List.mem_map] at h
    rcases h with ⟨b, hb, rfl⟩ | h
    · exact ⟨List.mem_cons_self, List.mem_cons_of_mem _ hb⟩
    · exact ⟨List.mem_cons_of_mem _ (ih h).1, List.mem_cons_of_mem _ (ih h).2⟩

end PairsOf

/-! ## The batch of a corpus -/

/-- The comparisons of every document with every later one. -/
def comparisons (documents : List Document) (width : Nat) (locate : Bool) :
    List (Except ScoreError Pair) :=
  (laterPairs documents.length).map fun place =>
    Pair.compare (documents.get place.1) (documents.get place.2) width locate

/-- The pairs of documents that are compared, with their comparisons, in no particular order. -/
def compared (corpus : Corpus) (width : Nat) (locate : Bool) : List Pair :=
  (pairsOf corpus.comparable).map fun q => Pair.ofDocuments q.1 q.2 width locate

theorem map_ok_compared (corpus : Corpus) {width : Nat} (hwidth : 0 < width) (locate : Bool) :
    (compared corpus width locate).map Except.ok = comparisons corpus.comparable width locate := by
  rw [compared, comparisons, pairsOf_eq_map_laterPairs, List.map_map, List.map_map]
  exact List.map_congr_left fun place _ => (Pair.compare_eq_ok _ _ hwidth locate).symm

theorem ofCorpus_eq_ok (corpus : Corpus) {width : Nat} (hwidth : 0 < width) (locate : Bool) :
    ofCorpus corpus width locate = .ok {
      comparedDocuments := corpus.comparable.length
      skipped := (corpus.documents.filter Document.isBlank).map Document.id
      pairs := ranked (compared corpus width locate)
      average := mean ((ranked (compared corpus width locate)).map Pair.score) } := by
  have hmapM : ((pairsOf corpus.comparable).mapM fun q => Pair.compare q.1 q.2 width locate) =
      .ok (compared corpus width locate) := by
    simp only [Pair.compare_eq_ok _ _ hwidth]
    exact List.mapM_pure
  rw [ofCorpus, if_neg (Nat.ne_of_gt hwidth)]
  dsimp only
  rw [← Corpus.comparable, hmapM]

/-- A pair of a batch is the comparison of two documents of the corpus. -/
theorem exists_documents_of_mem_ranked {corpus : Corpus} {width : Nat} {locate : Bool} {pair : Pair}
    (h : pair ∈ ranked (compared corpus width locate)) :
    ∃ left ∈ corpus.documents, ∃ right ∈ corpus.documents,
      pair = Pair.ofDocuments left right width locate := by
  rw [(ranked_perm _).mem_iff, compared, List.mem_map] at h
  obtain ⟨⟨left, right⟩, hmem, rfl⟩ := h
  obtain ⟨hleft, hright⟩ := mem_of_mem_pairsOf hmem
  exact ⟨left, mem_documents_of_mem_comparable hleft, right,
    mem_documents_of_mem_comparable hright, rfl⟩

theorem compared_withoutSegments (corpus : Corpus) (width : Nat) (locate : Bool) :
    (compared corpus width locate).map Pair.withoutSegments = compared corpus width false := by
  rw [compared, List.map_map]
  exact List.map_congr_left fun q _ => Pair.withoutSegments_ofDocuments q.1 q.2 width locate

theorem mean_of_ne_nil {scores : List Float} (h : scores ≠ []) :
    mean scores = some (scores.foldl (· + ·) 0 / Float.ofNat scores.length) := by
  cases scores with
  | nil => exact absurd rfl h
  | cons score rest => rfl

/-- The batch compares the documents of a corpus that are not blank, each with every later one and
once, and names the others. -/
structure CoversCorpus (batch : Batch) (corpus : Corpus) (width : Nat) (locate : Bool) : Prop where
  comparedDocuments : batch.comparedDocuments = corpus.comparable.length
  skipped : batch.skipped = (corpus.documents.filter Document.isBlank).map Document.id
  pairs : (batch.pairs.map Except.ok).Perm (comparisons corpus.comparable width locate)
  count : batch.pairs.length = corpus.comparable.length * (corpus.comparable.length - 1) / 2
  ranked : batch.pairs.Pairwise Pair.Precedes
  descending : batch.pairs.Pairwise fun p q => ¬ p.score < q.score
  average_eq_none : batch.average = none ↔ corpus.comparable.length < 2
  average_eq_some : 2 ≤ corpus.comparable.length → batch.average =
    some ((batch.pairs.map Pair.score).foldl (· + ·) 0 / Float.ofNat batch.pairs.length)

theorem coversCorpus_of_ofCorpus {corpus : Corpus} {width : Nat} {locate : Bool} {batch : Batch}
    (hwidth : 0 < width) (h : ofCorpus corpus width locate = .ok batch) :
    batch.CoversCorpus corpus width locate := by
  rw [ofCorpus_eq_ok corpus hwidth] at h
  obtain rfl := Except.ok.inj h
  have hperm := ranked_perm (compared corpus width locate)
  have hlength : (Batch.ranked (compared corpus width locate)).length =
      (pairsOf corpus.comparable).length := by
    rw [hperm.length_eq, compared, List.length_map]
  have hnil : (Batch.ranked (compared corpus width locate)).map Pair.score = [] ↔
      corpus.comparable.length < 2 := by
    rw [List.map_eq_nil_iff, ← List.length_eq_zero_iff, hlength, List.length_eq_zero_iff,
      pairsOf_eq_nil_iff]
  constructor
  case comparedDocuments => rfl
  case skipped => rfl
  case pairs =>
    rw [← map_ok_compared corpus hwidth]
    exact hperm.map _
  case count => rw [hlength, length_pairsOf]
  case ranked => exact pairwise_ranked _
  case descending => exact (pairwise_ranked _).imp Pair.Precedes.not_score_lt
  case average_eq_none =>
    rw [← hnil]
    cases (Batch.ranked (compared corpus width locate)).map Pair.score <;> simp [mean]
  case average_eq_some =>
    intro htwo
    have hne := mt hnil.mp (Nat.not_lt.mpr htwo)
    exact (mean_of_ne_nil hne).trans (by rw [List.length_map])

/-- Without segments a batch is the same but for these. -/
theorem ofCorpus_false_eq {corpus : Corpus} {width : Nat} {batch : Batch} (hwidth : 0 < width)
    (h : ofCorpus corpus width true = .ok batch) :
    ofCorpus corpus width false =
      .ok { batch with pairs := batch.pairs.map Pair.withoutSegments } := by
  rw [ofCorpus_eq_ok corpus hwidth] at h ⊢
  obtain rfl := Except.ok.inj h
  have hpairs := ranked_map_withoutSegments (compared corpus width true)
  rw [compared_withoutSegments] at hpairs
  have hscores : (Batch.ranked (compared corpus width false)).map Pair.score =
      (Batch.ranked (compared corpus width true)).map Pair.score := by
    rw [hpairs, List.map_map]
    rfl
  rw [hscores, hpairs]

/-- A corpus can be compared for every width but zero. The batch compares every two documents that
are not blank, and whether segments are located makes no other difference. -/
theorem ofCorpus_all_pairs (corpus : Corpus) {width : Nat} (hwidth : 0 < width) :
    ∃ full brief : Batch,
      ofCorpus corpus width true = .ok full ∧ full.CoversCorpus corpus width true ∧
      ofCorpus corpus width false = .ok brief ∧ brief.CoversCorpus corpus width false ∧
      brief = { full with pairs := full.pairs.map Pair.withoutSegments } := by
  have hfull := ofCorpus_eq_ok corpus hwidth true
  have hbrief := ofCorpus_false_eq hwidth hfull
  exact ⟨_, _, hfull, coversCorpus_of_ofCorpus hwidth hfull, hbrief,
    coversCorpus_of_ofCorpus hwidth hbrief, rfl⟩

/-- Three documents, one of them blank and two with one id, make one pair. -/
theorem ofCorpus_all_pairs_of_three :
    0 < 2 ∧ ∃ full brief : Batch,
      ofCorpus (.ofCanonical [("a", ['x', ';']), ("b", []), ("a", ['x'])]) 2 true = .ok full ∧
      ofCorpus (.ofCanonical [("a", ['x', ';']), ("b", []), ("a", ['x'])]) 2 false = .ok brief ∧
      full.pairs.length = 1 ∧ full.skipped = ["b"] ∧ full.average ≠ none ∧
      brief.pairs = full.pairs.map Pair.withoutSegments := by
  obtain ⟨full, brief, hfull, hcovers, hbrief, -, rfl⟩ :=
    ofCorpus_all_pairs (.ofCanonical [("a", ['x', ';']), ("b", []), ("a", ['x'])])
      (show 0 < 2 by decide)
  have hlength : (Corpus.ofCanonical
      [("a", ['x', ';']), ("b", []), ("a", ['x'])]).comparable.length = 2 := by decide
  refine ⟨by decide, full, _, hfull, hbrief, ?_, ?_, ?_, rfl⟩
  · rw [hcovers.count, hlength]
  · rw [hcovers.skipped]
    decide
  · rw [Ne, hcovers.average_eq_none, hlength]
    decide

end Batch

end SourceSimilarity
