import SourceSimilarity.Proofs.Fingerprint.Exhaustion
import SourceSimilarity.Proofs.Fingerprint.Segment

/-!
# Cutting a tiling down keeps the longest segments

A tiling that has too many segments is sorted twice, before the cut by length and after it by place.
Put together this is a choice of the longest segments; of equally long ones those are chosen that
begin first. There is only one such choice, since no two segments of a tiling begin at one place.
-/

namespace SourceSimilarity.Fingerprint

/-- A choice among all segments, in ascending order, that is as large as the limit allows. What it
drops is not longer than what it keeps and, if it is as long, begins behind that. -/
structure KeepsLongest (all kept dropped : List Segment) (limit : Nat) : Prop where
  perm : (kept ++ dropped).Perm all
  length_eq : kept.length = min all.length limit
  complete : all.length ≤ limit → dropped = []
  ascending : kept.Pairwise fun s t => s.start.Before t.start
  length_le : ∀ s ∈ kept, ∀ t ∈ dropped, t.length ≤ s.length
  before : ∀ s ∈ kept, ∀ t ∈ dropped, t.length = s.length → s.start.Before t.start

/-! ## The rank of a segment -/

namespace Segment

theorem outranks_iff {s t : Segment} :
    s.outranks t = true ↔ t.length < s.length ∨ s.length = t.length ∧ s.precedes t = true := by
  simp only [outranks, Bool.or_eq_true, Bool.and_eq_true, decide_eq_true_eq, beq_iff_eq]

theorem outranks_trans (a b c : Segment) : outranks a b → outranks b c → outranks a c := by
  rw [outranks_iff, outranks_iff, outranks_iff]
  rintro (hab | ⟨hab, hprecedes⟩) (hbc | ⟨hbc, hprecedes'⟩)
  · exact .inl (Nat.lt_trans hbc hab)
  · exact .inl (hbc ▸ hab)
  · exact .inl (hab ▸ hbc)
  · exact .inr ⟨hab.trans hbc, precedes_trans a b c hprecedes hprecedes'⟩

theorem outranks_total (a b : Segment) : (outranks a b || outranks b a) = true := by
  rw [Bool.or_eq_true, outranks_iff, outranks_iff]
  rcases Nat.lt_trichotomy a.length b.length with hlt | heq | hgt
  · exact .inr (.inl hlt)
  · rcases Bool.or_eq_true_iff.mp (precedes_total a b) with hprecedes | hprecedes
    · exact .inl (.inr ⟨heq, hprecedes⟩)
    · exact .inr (.inr ⟨heq.symm, hprecedes⟩)
  · exact .inl (.inl hgt)

theorem precedes_antisymm {a b : Segment} (hab : a.precedes b) (hba : b.precedes a) : a = b := by
  simp only [precedes, Bool.or_eq_true, Bool.and_eq_true, decide_eq_true_eq, beq_iff_eq] at hab hba
  obtain ⟨left, right, length⟩ := a
  obtain ⟨left', right', length'⟩ := b
  simp only [mk.injEq] at hab hba ⊢
  omega

theorem outranks_antisymm {a b : Segment} (hab : a.outranks b) (hba : b.outranks a) : a = b := by
  rw [outranks_iff] at hab hba
  rcases hab with hab | ⟨heq, hab⟩
  · omega
  · rcases hba with hba | ⟨-, hba⟩
    · omega
    · exact precedes_antisymm hab hba

/-- Where no two segments begin at one place, the order is that of the places. -/
theorem before_of_precedes {s t : Segment} (h : s.precedes t) (hne : s.left ≠ t.left) :
    s.start.Before t.start :=
  .inl (Nat.lt_of_le_of_ne (left_le_of_precedes h) hne)

theorem precedes_of_before {s t : Segment} (h : s.start.Before t.start) : s.precedes t := by
  simp only [Match.Before, start] at h
  simp only [precedes, Bool.or_eq_true, Bool.and_eq_true, decide_eq_true_eq, beq_iff_eq]
  omega

end Segment

theorem pairwise_outranks_mergeSort (segments : List Segment) :
    (segments.mergeSort Segment.outranks).Pairwise fun s t => s.outranks t = true :=
  List.pairwise_mergeSort Segment.outranks_trans Segment.outranks_total segments

/-! ## There is one choice -/

section KeepsLongest

variable {all kept kept' dropped dropped' : List Segment} {limit : Nat}

/-- What is kept outranks what is dropped. -/
theorem KeepsLongest.outranks (h : KeepsLongest all kept dropped limit) {s t : Segment}
    (hs : s ∈ kept) (ht : t ∈ dropped) : s.outranks t := by
  rw [Segment.outranks_iff]
  rcases Nat.lt_or_eq_of_le (h.length_le s hs t ht) with hlt | heq
  · exact .inl hlt
  · exact .inr ⟨heq.symm, Segment.precedes_of_before (h.before s hs t ht heq)⟩

/-- What is kept is the front of the ranking. -/
theorem KeepsLongest.mergeSort_kept (h : KeepsLongest all kept dropped limit) :
    kept.mergeSort Segment.outranks = (all.mergeSort Segment.outranks).take kept.length := by
  have hperm : (kept.mergeSort Segment.outranks ++ dropped.mergeSort Segment.outranks).Perm
      (all.mergeSort Segment.outranks) :=
    ((List.mergeSort_perm _ _).append (List.mergeSort_perm _ _)).trans
      (h.perm.trans (List.mergeSort_perm _ _).symm)
  have hranked : (kept.mergeSort Segment.outranks ++ dropped.mergeSort Segment.outranks).Pairwise
      fun s t => s.outranks t = true := by
    refine List.pairwise_append.mpr
      ⟨pairwise_outranks_mergeSort kept, pairwise_outranks_mergeSort dropped, ?_⟩
    intro s hs t ht
    exact h.outranks (List.mem_mergeSort.mp hs) (List.mem_mergeSort.mp ht)
  have happend := hperm.eq_of_pairwise (fun _ _ _ _ => Segment.outranks_antisymm) hranked
    (pairwise_outranks_mergeSort all)
  rw [← happend, List.take_left' (List.length_mergeSort _)]

theorem KeepsLongest.eq (h : KeepsLongest all kept dropped limit)
    (h' : KeepsLongest all kept' dropped' limit) : kept' = kept := by
  have hsame : kept'.mergeSort Segment.outranks = kept.mergeSort Segment.outranks := by
    rw [h.mergeSort_kept, h'.mergeSort_kept, h.length_eq, h'.length_eq]
  have hperm : kept'.Perm kept := by
    refine (List.mergeSort_perm kept' Segment.outranks).symm.trans ?_
    rw [hsame]
    exact List.mergeSort_perm _ _
  refine hperm.eq_of_pairwise ?_ h'.ascending h.ascending
  intro s t _ _ hst hts
  exact Segment.precedes_antisymm (Segment.precedes_of_before hst) (Segment.precedes_of_before hts)

/-! ## The choice made -/

/-- Where no two segments begin at one place, choosing by rank keeps the longest. -/
theorem KeepsLongest.of_outranks (hdistinct : all.Pairwise fun s t => s.left ≠ t.left)
    (hperm : (kept ++ dropped).Perm all) (hlength : kept.length = min all.length limit)
    (hsorted : kept.Pairwise fun s t => s.precedes t = true)
    (hranked : ∀ s ∈ kept, ∀ t ∈ dropped, s.outranks t) : KeepsLongest all kept dropped limit := by
  -- being distinct has nothing to do with the order, so it holds within and across the two parts
  obtain ⟨hkept, -, happart⟩ :=
    List.pairwise_append.mp ((hperm.pairwise_iff fun hne => hne.symm).mpr hdistinct)
  constructor
  case perm => exact hperm
  case length_eq => exact hlength
  case complete =>
    intro hfew
    have hsum := hperm.length_eq
    rw [List.length_append] at hsum
    exact List.eq_nil_of_length_eq_zero (by omega)
  case ascending => exact (hsorted.and hkept).imp fun h => Segment.before_of_precedes h.1 h.2
  case length_le =>
    intro s hs t ht
    have := Segment.outranks_iff.mp (hranked s hs t ht)
    omega
  case before =>
    intro s hs t ht heq
    rcases Segment.outranks_iff.mp (hranked s hs t ht) with hlt | ⟨-, hprecedes⟩
    · omega
    · exact Segment.before_of_precedes hprecedes (happart s hs t ht)

end KeepsLongest

theorem outranks_of_mem_take_of_mem_drop {segments : List Segment} {n : Nat} {s t : Segment}
    (hs : s ∈ (segments.mergeSort Segment.outranks).take n)
    (ht : t ∈ (segments.mergeSort Segment.outranks).drop n) : s.outranks t := by
  have hranked := pairwise_outranks_mergeSort segments
  rw [← List.take_append_drop n (segments.mergeSort _)] at hranked
  exact (List.pairwise_append.mp hranked).2.2 s hs t ht

namespace Tiling

theorem keepsLongest_longest {segments : List Segment}
    (hdistinct : segments.Pairwise fun s t => s.left ≠ t.left) :
    KeepsLongest segments ((longest segments).mergeSort Segment.precedes)
      ((segments.mergeSort Segment.outranks).drop maxSegments) maxSegments := by
  have hkept : ((longest segments).mergeSort Segment.precedes).Perm
      ((segments.mergeSort Segment.outranks).take maxSegments) :=
    (List.mergeSort_perm _ _).trans (longest_perm_take segments)
  refine .of_outranks hdistinct ?perm ?length ?sorted ?ranked
  case perm =>
    refine (hkept.append_right _).trans ?_
    rw [List.take_append_drop]
    exact List.mergeSort_perm _ _
  case length => rw [List.length_mergeSort, length_longest]
  case sorted => exact List.pairwise_mergeSort Segment.precedes_trans Segment.precedes_total _
  case ranked => exact fun s hs t ht => outranks_of_mem_take_of_mem_drop (hkept.mem_iff.mp hs) ht

/-- No two segments of a greedy tiling begin at one character of the left text. -/
theorem pairwise_left_ne_greedy (left right : Text) (width : Nat) :
    (greedy left right width).Pairwise fun s t => s.left ≠ t.left := by
  rcases Nat.eq_zero_or_pos width with rfl | hwidth
  · simp [greedy, hashes, walk]
  · refine (pairwise_greedy hwidth).imp_of_mem ?_
    rintro s t hs ht ⟨hseparate, -⟩ heq
    have := (fits_of_mem_greedy hs).width_le
    have := (fits_of_mem_greedy ht).width_le
    exact hseparate s.left ⟨by omega, by omega⟩

end Tiling

/-- The segments of a tiling are the one choice of at most 256 among those of the greedy tiling that
keeps the longest, and all of them if there are no more. -/
theorem eq_tile_iff_keepsLongest (left right : Text) (width : Nat) (kept : List Segment) :
    kept = tile left right width ↔
      ∃ dropped, KeepsLongest (Tiling.greedy left right (clampWidth width left right)) kept dropped
        256 := by
  have hchoice := Tiling.keepsLongest_longest
    (Tiling.pairwise_left_ne_greedy left right (clampWidth width left right))
  rw [← tile_eq_mergeSort_longest] at hchoice
  constructor
  · rintro rfl
    exact ⟨_, hchoice⟩
  · rintro ⟨dropped, h⟩
    exact hchoice.eq h

end SourceSimilarity.Fingerprint
