import SourceSimilarity.Proofs.Batch.ScoreOrder

/-!
# Rankings

A ranking holds its pairs in a total preorder that looks at the scores and the two ids only. Scores
are told apart by that order, so two rankings with the same scores in them list the scores alike.
-/

namespace SourceSimilarity.Batch

namespace Pair

/-! ## The order of pairs -/

/-- The better score counts first, then the left id, then the right one. -/
def Precedes (p q : Pair) : Prop :=
  scoreKey q.score < scoreKey p.score ∨
    p.score = q.score ∧
      (p.left < q.left ∨ p.left = q.left ∧ (p.right < q.right ∨ p.right = q.right))

instance : Std.TransCmp rank :=
  have : Std.TransCmp fun a b : Pair => Ord.compare (scoreKey b.score) (scoreKey a.score) :=
    @Std.TransCmp.opposite Pair (compareOn fun p => scoreKey p.score) inferInstance
  inferInstanceAs (Std.TransCmp (compareLex
    (fun a b => Ord.compare (scoreKey b.score) (scoreKey a.score))
    (compareLex (compareOn left) (compareOn right))))

theorem ranksBefore_trans (p q r : Pair) : p.ranksBefore q → q.ranksBefore r → p.ranksBefore r :=
  Std.TransCmp.isLE_trans

theorem ranksBefore_total (p q : Pair) : (p.ranksBefore q || q.ranksBefore p) = true := by
  unfold ranksBefore
  rw [show rank q p = (rank p q).swap from Std.OrientedCmp.eq_swap]
  cases rank p q <;> rfl

theorem compare_id_eq_lt_iff {id id' : String} : Ord.compare id id' = .lt ↔ id < id' :=
  compareOfLessAndEq_eq_lt

theorem ranksBefore_iff {p q : Pair} : p.ranksBefore q ↔ p.Precedes q := by
  unfold ranksBefore rank Precedes
  rw [Ordering.isLE_then_iff_or, Ordering.isLE_then_iff_or, Ordering.isLE_iff_eq_lt_or_eq_eq,
    Int.compare_eq_lt, Int.compare_eq_eq, compare_id_eq_lt_iff, compare_id_eq_lt_iff,
    Std.LawfulEqOrd.compare_eq_iff_eq, Std.LawfulEqOrd.compare_eq_iff_eq,
    scoreKey_injective.eq_iff, eq_comm (a := q.score)]

theorem Precedes.scoreKey_le {p q : Pair} (h : p.Precedes q) :
    scoreKey q.score ≤ scoreKey p.score := by
  rcases h with hlt | ⟨heq, -⟩
  · exact Int.le_of_lt hlt
  · exact Int.le_of_eq (congrArg scoreKey heq.symm)

/-- No pair comes before one with a better score. -/
theorem Precedes.not_score_lt {p q : Pair} (h : p.Precedes q) : ¬ p.score < q.score := by
  intro hlt
  exact absurd (scoreKey_lt_of_lt hlt) (Int.not_lt.mpr h.scoreKey_le)

/-- The pair with what it does not take to rank it left out. -/
def withoutSegments (pair : Pair) : Pair :=
  { pair with segments := [] }

end Pair

/-! ## Rankings -/

theorem ranked_perm (pairs : List Pair) : (ranked pairs).Perm pairs :=
  List.mergeSort_perm _ _

theorem pairwise_ranked (pairs : List Pair) : (ranked pairs).Pairwise Pair.Precedes :=
  (List.pairwise_mergeSort Pair.ranksBefore_trans Pair.ranksBefore_total pairs).imp
    Pair.ranksBefore_iff.mp

/-- Sorting something else by the pairs that come of it ranks the pairs. -/
theorem map_mergeSort_ranksBefore {α : Type} (f : α → Pair) (l : List α) :
    (l.mergeSort fun a b => (f a).ranksBefore (f b)).map f = ranked (l.map f) :=
  List.map_mergeSort fun _ _ _ _ => rfl

theorem ranked_map_withoutSegments (pairs : List Pair) :
    ranked (pairs.map Pair.withoutSegments) = (ranked pairs).map Pair.withoutSegments :=
  (map_mergeSort_ranksBefore Pair.withoutSegments pairs).symm

/-- Which scores there are settles how a ranking lists them, whatever the ids are. -/
theorem map_score_ranked {pairs pairs' : List Pair}
    (h : (pairs.map Pair.score).Perm (pairs'.map Pair.score)) :
    (ranked pairs).map Pair.score = (ranked pairs').map Pair.score := by
  have hdescending (l : List Pair) :
      ((ranked l).map Pair.score).Pairwise fun a b => scoreKey b ≤ scoreKey a :=
    List.pairwise_map.mpr ((pairwise_ranked l).imp Pair.Precedes.scoreKey_le)
  have hperm (l : List Pair) : ((ranked l).map Pair.score).Perm (l.map Pair.score) :=
    (ranked_perm l).map _
  refine List.Perm.eq_of_pairwise ?_ (hdescending pairs) (hdescending pairs')
    ((hperm pairs).trans (h.trans (hperm pairs').symm))
  intro a b _ _ hab hba
  exact scoreKey_injective (Int.le_antisymm hba hab)

end SourceSimilarity.Batch
