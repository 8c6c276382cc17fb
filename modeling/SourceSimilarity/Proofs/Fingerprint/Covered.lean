import Mathlib.Algebra.GroupWithZero.Nat
import Mathlib.Order.Interval.Finset.Nat
import SourceSimilarity.Proofs.Fingerprint.Tiling

/-!
# Covered characters are counted once

The count goes over the spans by their starts and remembers how far it has come, so a character in
several spans is counted in the first of them. Where no character is in two spans the count is the
sum of their lengths.
-/

namespace SourceSimilarity.Fingerprint

open Finset

/-- The places in one of the spans, each given by its first place and the one behind its last. -/
def placesIn (spans : List (Nat × Nat)) : Finset Nat :=
  spans.toFinset.biUnion fun span => Ico span.1 span.2

section Places

variable {spans : List (Nat × Nat)}

theorem mem_placesIn {i : Nat} :
    i ∈ placesIn spans ↔ ∃ span ∈ spans, span.1 ≤ i ∧ i < span.2 := by
  simp only [placesIn, mem_biUnion, List.mem_toFinset, mem_Ico]

theorem placesIn_cons (span : Nat × Nat) (rest : List (Nat × Nat)) :
    placesIn (span :: rest) = Ico span.1 span.2 ∪ placesIn rest := by
  rw [placesIn, List.toFinset_cons, biUnion_insert]
  rfl

theorem placesIn_perm {spans' : List (Nat × Nat)} (h : spans.Perm spans') :
    placesIn spans = placesIn spans' := by
  rw [placesIn, List.toFinset_eq_of_perm _ _ h]
  rfl

/-- The spans are counted as far as they go beyond what is counted already. -/
theorem countCovered_eq_card (h : spans.Pairwise fun a b => a.1 ≤ b.1) (reach : Nat) :
    countCovered reach spans = (placesIn spans \ range reach).card := by
  induction spans generalizing reach with
  | nil => simp [countCovered, placesIn]
  | cons span rest ih =>
    obtain ⟨start, stop⟩ := span
    obtain ⟨hfirst, hrest⟩ := List.pairwise_cons.mp h
    -- What later spans have before `stop` lies in this span too, as none starts before it.
    have hsplit : placesIn ((start, stop) :: rest) \ range reach =
        Ico (max start reach) stop ∪ (placesIn rest \ range (max reach stop)) := by
      ext i
      simp only [placesIn_cons, mem_sdiff, mem_union, mem_Ico, mem_range]
      by_cases hi : i ∈ placesIn rest
      · obtain ⟨span, hspan, hle, -⟩ := mem_placesIn.mp hi
        have hlater : start ≤ i := Nat.le_trans (hfirst span hspan) hle
        simp only [hi, true_and, or_true]
        omega
      · simp only [hi, false_and, or_false]
        omega
    have hdisjoint : Disjoint (Ico (max start reach) stop)
        (placesIn rest \ range (max reach stop)) := by
      rw [disjoint_left]
      intro i hi
      simp only [mem_sdiff, mem_range, mem_Ico] at hi ⊢
      omega
    rw [countCovered, ih hrest, hsplit, card_union_of_disjoint hdisjoint, Nat.card_Ico]

/-- The order in which the spans are counted is by their starts. -/
theorem pairwise_mergeSort_spans (spans : List (Nat × Nat)) :
    (spans.mergeSort fun a b => a.1 < b.1 || (a.1 == b.1 && a.2 ≤ b.2)).Pairwise
      fun a b => a.1 ≤ b.1 := by
  refine (List.pairwise_mergeSort ?trans ?total spans).imp fun h => ?le
  case trans =>
    intro a b c
    simp only [Bool.or_eq_true, Bool.and_eq_true, decide_eq_true_eq, beq_iff_eq]
    omega
  case total =>
    intro a b
    simp only [Bool.or_eq_true, Bool.and_eq_true, decide_eq_true_eq, beq_iff_eq]
    omega
  case le =>
    simp only [Bool.or_eq_true, Bool.and_eq_true, decide_eq_true_eq, beq_iff_eq] at h
    omega

/-- Spans that have no place in common count as many places as their lengths add up to. -/
theorem card_placesIn (h : spans.Pairwise fun a b => Disjoint (Ico a.1 a.2) (Ico b.1 b.2)) :
    (placesIn spans).card = (spans.map fun span => span.2 - span.1).sum := by
  induction spans with
  | nil => rfl
  | cons span rest ih =>
    obtain ⟨hfirst, hrest⟩ := List.pairwise_cons.mp h
    have hdisjoint : Disjoint (Ico span.1 span.2) (placesIn rest) := by
      rw [disjoint_right]
      intro i hi
      obtain ⟨other, hother, hmem⟩ := mem_placesIn.mp hi
      exact disjoint_right.mp (hfirst other hother) (mem_Ico.mpr hmem)
    rw [placesIn_cons, card_union_of_disjoint hdisjoint, Nat.card_Ico, ih hrest, List.map_cons,
      List.sum_cons]

end Places

/-! ## The spans of segments -/

section Segments

variable {segments : List Segment}

/-- The spans of segments in one of the texts, where `start` tells how they begin. -/
def spansFrom (start : Segment → Nat) (segments : List Segment) : List (Nat × Nat) :=
  segments.map fun s => (start s, start s + s.length)

theorem disjoint_of_separate {a m b n : Nat} (h : Separate a m b n) :
    Disjoint (Ico a (a + m)) (Ico b (b + n)) := by
  rw [disjoint_left]
  intro i hi hi'
  exact h i ⟨mem_Ico.mp hi, mem_Ico.mp hi'⟩

/-- How many places of the left text lie in a segment. -/
theorem coveredLength_eq_card (segments : List Segment) :
    coveredLength segments = (placesIn (spansFrom Segment.left segments)).card := by
  rw [coveredLength, ← spansFrom, countCovered_eq_card (pairwise_mergeSort_spans _) 0, range_zero,
    sdiff_empty, placesIn_perm (List.mergeSort_perm _ _)]

/-- Segments of which no two have a place in common cover as many places as their lengths add up
to. -/
theorem card_placesIn_spansFrom {start : Segment → Nat}
    (h : segments.Pairwise fun s t => Separate (start s) s.length (start t) t.length) :
    (placesIn (spansFrom start segments)).card = (segments.map Segment.length).sum := by
  rw [spansFrom, card_placesIn (List.pairwise_map.mpr (h.imp disjoint_of_separate)), List.map_map]
  congr 1
  exact List.map_congr_left fun s _ => Nat.add_sub_cancel_left _ _

theorem placesIn_spansFrom_subset {start : Segment → Nat} {n : Nat}
    (h : ∀ s ∈ segments, start s + s.length ≤ n) :
    placesIn (spansFrom start segments) ⊆ range n := by
  intro i hi
  obtain ⟨span, hspan, -, hlt⟩ := mem_placesIn.mp hi
  obtain ⟨s, hs, rfl⟩ := List.mem_map.mp hspan
  exact mem_range.mpr (Nat.lt_of_lt_of_le hlt (h s hs))

/-- Segments inside a text of which no two have a place in common are together no longer than the
text. -/
theorem sum_length_le {start : Segment → Nat} {n : Nat}
    (h : segments.Pairwise fun s t => Separate (start s) s.length (start t) t.length)
    (hin : ∀ s ∈ segments, start s + s.length ≤ n) : (segments.map Segment.length).sum ≤ n :=
  calc (segments.map Segment.length).sum
      = (placesIn (spansFrom start segments)).card := (card_placesIn_spansFrom h).symm
    _ ≤ (range n).card := card_le_card (placesIn_spansFrom_subset hin)
    _ = n := card_range n

end Segments

end SourceSimilarity.Fingerprint
