import Mathlib.Data.Sym.Sym2
import SourceSimilarity.Proofs.Batch.AllPairs
import SourceSimilarity.Report.Metrics

/-!
# Batches do not depend on the order of the documents

Two corpora with the same documents give every two of these the same score and the same width. Which
of the two is the left one, and how equal scores are ordered, can differ. The list of scores is the
same, because a ranking lists them in an order of their own, and so is all that is computed from it.
-/

namespace SourceSimilarity

open Corpus Fingerprint

theorem Corpus.comparable_perm {corpus corpus' : Corpus}
    (h : corpus.documents.Perm corpus'.documents) :
    corpus.comparable.Perm corpus'.comparable :=
  h.filter _

namespace Batch

/-! ## Pairs of a list in another order -/

/-- What does not depend on which of two elements comes first is the same for all pairs of a list,
however the list is ordered. -/
theorem map_pairsOf_perm {α β : Type} {f : α → α → β} (hf : ∀ a b, f a b = f b a)
    {l l' : List α} (h : l.Perm l') :
    ((pairsOf l).map fun q => f q.1 q.2).Perm ((pairsOf l').map fun q => f q.1 q.2) := by
  induction h with
  | nil => exact .nil
  | @cons a l l' hl ih =>
    simp only [pairsOf, List.map_append, List.map_map]
    exact (hl.map _).append ih
  | swap a b l =>
    -- The two elements make one pair. The pairs of each with the others are exchanged as a whole.
    simp only [pairsOf, List.map_append, List.map_map, List.map_cons, List.cons_append,
      Function.comp_def, hf b a]
    exact .cons _ (List.perm_append_comm_assoc _ _ _)
  | trans _ _ ih ih' => exact ih.trans ih'

/-! ## What a batch says of two documents -/

/-- Two documents, whichever comes first, with the score and the width that a batch gives them. -/
abbrev Figures : Type :=
  Sym2 Document × Float × Nat

/-- The figures of two documents. -/
def figuresOf (width : Nat) (left right : Document) : Figures :=
  (s(left, right), scoreOf left.canonical right.canonical width,
    clampWidth width left.canonical right.canonical)

theorem figuresOf_comm (width : Nat) (left right : Document) :
    figuresOf width left right = figuresOf width right left := by
  unfold figuresOf
  rw [Sym2.eq_swap, scoreOf_comm, clampWidth_comm]

/-- The documents behind the pairs of a batch: all pairs of those that are not blank, in the order
in which the batch has their comparisons. -/
structure Behind (asked : List (Document × Document)) (batch : Batch) (corpus : Corpus)
    (width : Nat) (locate : Bool) : Prop where
  perm : asked.Perm (pairsOf corpus.comparable)
  compared : (asked.map fun q => Pair.compare q.1 q.2 width locate) = batch.pairs.map Except.ok

/-- The figures that the pairs of a batch give for the documents behind them. -/
def figures (asked : List (Document × Document)) (batch : Batch) : List Figures :=
  (asked.zip batch.pairs).map fun entry =>
    (s(entry.1.1, entry.1.2), entry.2.score, entry.2.width)

section Asked

variable (corpus : Corpus) (width : Nat) (locate : Bool)

/-- The pairs of documents in the order of the ranking of their comparisons. -/
def askedInOrder : List (Document × Document) :=
  (pairsOf corpus.comparable).mergeSort fun q q' =>
    (Pair.ofDocuments q.1 q.2 width locate).ranksBefore (Pair.ofDocuments q'.1 q'.2 width locate)

theorem askedInOrder_perm :
    (askedInOrder corpus width locate).Perm (pairsOf corpus.comparable) :=
  List.mergeSort_perm _ _

theorem map_ofDocuments_askedInOrder :
    (askedInOrder corpus width locate).map (fun q => Pair.ofDocuments q.1 q.2 width locate) =
      ranked (compared corpus width locate) :=
  map_mergeSort_ranksBefore _ _

end Asked

theorem figures_of_map {asked : List (Document × Document)} {batch : Batch} {width : Nat}
    {locate : Bool}
    (h : (asked.map fun q => Pair.ofDocuments q.1 q.2 width locate) = batch.pairs) :
    figures asked batch = asked.map fun q => figuresOf width q.1 q.2 := by
  rw [figures, ← h, ← List.map_prod_left_eq_zip, List.map_map]
  rfl

/-! ## The same documents in another order -/

/-- Of a batch, the metrics take the list of scores, what is computed from it, and how many
documents there were. -/
theorem metrics_congr {batch batch' : Batch}
    (hdocuments : batch.comparedDocuments = batch'.comparedDocuments)
    (hscores : batch.pairs.map Pair.score = batch'.pairs.map Pair.score)
    (haverage : batch.average = batch'.average) (threshold : Float) :
    Report.Metrics.ofBatch batch threshold = Report.Metrics.ofBatch batch' threshold := by
  have hflagged (pairs : List Pair) : (pairs.filter (Report.isFlagged threshold)).length =
      ((pairs.map Pair.score).filter (· >= threshold)).length := by
    rw [List.filter_map, List.length_map]
    rfl
  have hpairs : batch.pairs.length = batch'.pairs.length := by
    simpa only [List.length_map] using congrArg List.length hscores
  simp only [Report.Metrics.ofBatch, hdocuments, haverage, hpairs, hflagged, hscores,
    ← List.head?_map]

theorem compared_score_perm {corpus corpus' : Corpus}
    (h : corpus.documents.Perm corpus'.documents) (width : Nat) (locate : Bool) :
    ((compared corpus width locate).map Pair.score).Perm
      ((compared corpus' width locate).map Pair.score) := by
  rw [compared, compared, List.map_map, List.map_map]
  exact map_pairsOf_perm (f := fun a b => scoreOf a.canonical b.canonical width)
    (fun _ _ => scoreOf_comm _ _ _) (Corpus.comparable_perm h)

/-- Two batches that say the same of every two documents, and of all of them together. -/
structure Agree (asked asked' : List (Document × Document)) (batch batch' : Batch) : Prop where
  figures : (figures asked batch).Perm (Batch.figures asked' batch')
  scores : batch.pairs.map Pair.score = batch'.pairs.map Pair.score
  average : batch.average = batch'.average
  metrics : ∀ threshold,
    Report.Metrics.ofBatch batch threshold = Report.Metrics.ofBatch batch' threshold

theorem agree_of_ofCorpus {corpus corpus' : Corpus} {width : Nat} {locate : Bool}
    {batch batch' : Batch} (hwidth : 0 < width) (h : corpus.documents.Perm corpus'.documents)
    (hbatch : ofCorpus corpus width locate = .ok batch)
    (hbatch' : ofCorpus corpus' width locate = .ok batch') :
    Agree (askedInOrder corpus width locate) (askedInOrder corpus' width locate) batch batch' := by
  rw [ofCorpus_eq_ok _ hwidth] at hbatch hbatch'
  obtain rfl := Except.ok.inj hbatch
  obtain rfl := Except.ok.inj hbatch'
  have hcomparable := Corpus.comparable_perm h
  have hscores := map_score_ranked (compared_score_perm h width locate)
  have haverage := congrArg mean hscores
  refine ⟨?_, hscores, haverage, metrics_congr hcomparable.length_eq hscores haverage⟩
  rw [figures_of_map (map_ofDocuments_askedInOrder corpus width locate),
    figures_of_map (map_ofDocuments_askedInOrder corpus' width locate)]
  exact ((askedInOrder_perm _ _ _).map _).trans
    ((map_pairsOf_perm (figuresOf_comm width) hcomparable).trans
      ((askedInOrder_perm _ _ _).map _).symm)

theorem behind_askedInOrder {corpus : Corpus} {width : Nat} {locate : Bool} {batch : Batch}
    (hwidth : 0 < width) (h : ofCorpus corpus width locate = .ok batch) :
    Behind (askedInOrder corpus width locate) batch corpus width locate := by
  rw [ofCorpus_eq_ok _ hwidth] at h
  obtain rfl := Except.ok.inj h
  refine ⟨askedInOrder_perm _ _ _, ?_⟩
  rw [← map_ofDocuments_askedInOrder, List.map_map]
  exact List.map_congr_left fun q _ => Pair.compare_eq_ok _ _ hwidth _

/-- The order of the documents makes no difference to what a batch says of any two of them, to the
list of scores, or to what is computed from it. -/
theorem ofCorpus_perm {corpus corpus' : Corpus} (h : corpus.documents.Perm corpus'.documents)
    {width : Nat} (hwidth : 0 < width) (locate : Bool) :
    ∃ (batch batch' : Batch) (asked asked' : List (Document × Document)),
      ofCorpus corpus width locate = .ok batch ∧ Behind asked batch corpus width locate ∧
      ofCorpus corpus' width locate = .ok batch' ∧ Behind asked' batch' corpus' width locate ∧
      Agree asked asked' batch batch' := by
  have hbatch := ofCorpus_eq_ok corpus hwidth locate
  have hbatch' := ofCorpus_eq_ok corpus' hwidth locate
  exact ⟨_, _, _, _, hbatch, behind_askedInOrder hwidth hbatch, hbatch',
    behind_askedInOrder hwidth hbatch', agree_of_ofCorpus hwidth h hbatch hbatch'⟩

/-- Four documents, one of them blank and two with one id, and the same from the last to the first.
-/
theorem ofCorpus_perm_reversed :
    let corpus : Corpus := .ofCanonical [("a", ['x', ';']), ("e", []), ("b", ['x']), ("a", ['y'])]
    let corpus' : Corpus := ⟨corpus.documents.reverse⟩
    corpus.documents.Perm corpus'.documents ∧ 0 < 2 ∧ ∃ batch batch' : Batch,
      ofCorpus corpus 2 true = .ok batch ∧ ofCorpus corpus' 2 true = .ok batch' ∧
      batch.pairs.length = 3 ∧ batch.pairs.map Pair.score = batch'.pairs.map Pair.score ∧
      batch.average = batch'.average := by
  intro corpus corpus'
  have hperm : corpus.documents.Perm corpus'.documents := (List.reverse_perm _).symm
  obtain ⟨batch, batch', asked, _, hbatch, hbehind, hbatch', -, hagree⟩ :=
    ofCorpus_perm hperm (show 0 < 2 by decide) true
  have hpairs : batch.pairs.length = (pairsOf corpus.comparable).length := by
    have hcompared := congrArg List.length hbehind.compared
    rw [List.length_map, List.length_map] at hcompared
    rw [← hcompared, hbehind.perm.length_eq]
  refine ⟨hperm, by decide, batch, batch', hbatch, hbatch', ?_, hagree.scores, hagree.average⟩
  rw [hpairs]
  decide

end Batch

end SourceSimilarity
