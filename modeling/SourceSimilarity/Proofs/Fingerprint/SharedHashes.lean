import SourceSimilarity.Proofs.Fingerprint.Jaccard
import SourceSimilarity.Proofs.Fingerprint.Join

/-!
# Scores count what matches

The score comes from two sets of hashes, the matches from an index of places. Both tell the same
overlap: the shared hashes are those that stand where something matches, so nothing is shared if
nothing matches, and everything is shared if every place has a match.
-/

namespace SourceSimilarity.Fingerprint

open Finset

/-! ## What a join says of its entries -/

namespace PairsEqual

variable {α : Type} {left right : List α} {found : List Match}

/-- A place of the left list is matched if its entry is in the right list. -/
theorem exists_left_iff (h : PairsEqual left right found) {i : Nat} :
    (∃ m ∈ found, m.left = i) ↔ ∃ entry ∈ right, left[i]? = some entry := by
  constructor
  · rintro ⟨m, hm, rfl⟩
    obtain ⟨entry, hleft, hright⟩ := exists_entry_iff.mpr ((h m).mp hm)
    exact ⟨entry, List.mem_of_getElem? hright, hleft⟩
  · rintro ⟨entry, hentry, hleft⟩
    obtain ⟨j, hright⟩ := List.mem_iff_getElem?.mp hentry
    exact ⟨⟨i, j⟩, (h _).mpr (exists_entry_iff.mp ⟨entry, hleft, hright⟩), rfl⟩

variable [DecidableEq α]

/-- The entries at the left places that are matched are those that both lists have. -/
theorem toFinset_entries (h : PairsEqual left right found) :
    (found.map fun m => left[m.left]?).toFinset =
      (left.toFinset ∩ right.toFinset).image some := by
  ext entry?
  simp only [List.mem_toFinset, List.mem_map, mem_image, mem_inter]
  constructor
  · rintro ⟨m, hm, rfl⟩
    obtain ⟨entry, hright, hleft⟩ := h.exists_left_iff.mp ⟨m, hm, rfl⟩
    exact ⟨entry, ⟨List.mem_of_getElem? hleft, hright⟩, hleft.symm⟩
  · rintro ⟨entry, ⟨hentry, hright⟩, rfl⟩
    obtain ⟨i, hleft⟩ := List.mem_iff_getElem?.mp hentry
    obtain ⟨m, hm, rfl⟩ := h.exists_left_iff.mpr ⟨entry, hright, hleft⟩
    exact ⟨m, hm, hleft⟩

theorem card_entries (h : PairsEqual left right found) :
    (found.map fun m => left[m.left]?).toFinset.card = (left.toFinset ∩ right.toFinset).card := by
  rw [h.toFinset_entries, card_image_of_injective _ (Option.some_injective α)]

theorem disjoint_iff_eq_nil (h : PairsEqual left right found) :
    Disjoint left.toFinset right.toFinset ↔ found = [] := by
  rw [disjoint_iff_inter_eq_empty, ← card_eq_zero, ← h.card_entries, card_eq_zero,
    List.toFinset_eq_empty_iff, List.map_eq_nil_iff]

/-- Every place of the left list is matched if the right list has all its entries. -/
theorem subset_iff_forall_left (h : PairsEqual left right found) :
    left.toFinset ⊆ right.toFinset ↔ ∀ i < left.length, ∃ m ∈ found, m.left = i := by
  constructor
  · intro hsubset i hi
    have hentry : left[i] ∈ left.toFinset := List.mem_toFinset.mpr (List.getElem_mem hi)
    exact h.exists_left_iff.mpr
      ⟨left[i], List.mem_toFinset.mp (hsubset hentry), List.getElem?_eq_getElem hi⟩
  · intro hall entry hentry
    obtain ⟨i, hi, rfl⟩ := List.mem_iff_getElem.mp (List.mem_toFinset.mp hentry)
    obtain ⟨entry, hright, hleft⟩ := h.exists_left_iff.mp (hall i hi)
    obtain rfl := Option.some.inj ((List.getElem?_eq_getElem hi).symm.trans hleft)
    exact List.mem_toFinset.mpr hright

/-- Both lists have the same entries if every place of either is matched. -/
theorem toFinset_eq_iff (h : PairsEqual left right found) :
    left.toFinset = right.toFinset ↔
      (∀ i < left.length, ∃ m ∈ found, m.left = i) ∧
        ∀ j < right.length, ∃ m ∈ found, m.right = j := by
  have hright := h.mirror.subset_iff_forall_left
  simp only [List.mem_map, exists_exists_and_eq_and, Match.mirror] at hright
  rw [subset_antisymm_iff, h.subset_iff_forall_left, hright]

end PairsEqual

/-! ## The matches of two texts -/

/-- The hashes that stand at the left places of the matches, each counted once, are those that the
score counts as shared. So the score is zero if and only if there is no match, and one if and only
if there is a match at every place of either text. -/
theorem similarity_counts_matches {left right : Text} (hleft : left ≠ []) (hright : right ≠ [])
    {width : Nat} (hwidth : 0 < width) :
    ((findMatches left right width).map fun m =>
        (hashes left (clampWidth width left right))[m.left]?).toFinset.card =
      (Overlap.ofTexts left right width).shared ∧
    ∃ score, similarity left right width = .ok score ∧
      score = Float.ofNat (Overlap.ofTexts left right width).shared /
        Float.ofNat (Overlap.ofTexts left right width).total ∧
      (score = 0.0 ↔ findMatches left right width = []) ∧
      (score = 1.0 ↔
        (∀ i < (hashes left (clampWidth width left right)).length,
          ∃ m ∈ findMatches left right width, m.left = i) ∧
        ∀ j < (hashes right (clampWidth width left right)).length,
          ∃ m ∈ findMatches left right width, m.right = j) := by
  have hpairs := (isJoin_findMatches left right width).pairs
  have hjaccard := isJaccard_hashes hleft hright hwidth
  refine ⟨?_, _, similarity_eq_score hleft hright hwidth, ?_, ?_, ?_⟩
  · rw [hpairs.card_entries, Overlap.ofTexts_eq]
  · rw [hjaccard.eq_quotient, Overlap.ofTexts_eq]
  · exact hjaccard.eq_zero_iff.trans hpairs.disjoint_iff_eq_nil
  · exact hjaccard.eq_one_iff.trans hpairs.toFinset_eq_iff

/-- The window `ab` matches twice and is shared once. No match stands at the window `ba`. -/
theorem similarity_counts_matches_repeated :
    ['a', 'b', 'a', 'b'] ≠ [] ∧ ['a', 'b'] ≠ [] ∧ 0 < 5 ∧
      findMatches ['a', 'b', 'a', 'b'] ['a', 'b'] 5 = [⟨0, 0⟩, ⟨2, 0⟩] ∧
      (Overlap.ofTexts ['a', 'b', 'a', 'b'] ['a', 'b'] 5).shared = 1 ∧
      ∃ score, similarity ['a', 'b', 'a', 'b'] ['a', 'b'] 5 = .ok score ∧
        score ≠ 0.0 ∧ score ≠ 1.0 := by
  have hclamp : clampWidth 5 ['a', 'b', 'a', 'b'] ['a', 'b'] = 2 := by decide
  have hleft : hashes ['a', 'b', 'a', 'b'] 2 = [24930, 25185, 24930] := by decide
  have hright : hashes ['a', 'b'] 2 = [24930] := by decide
  have hfound : findMatches ['a', 'b', 'a', 'b'] ['a', 'b'] 5 = [⟨0, 0⟩, ⟨2, 0⟩] := by
    simp [findMatches, hclamp, hleft, hright, matchesFrom, OffsetIndex.ofHashes,
      OffsetIndex.offsets_ofHashesFrom_cons, List.mergeSort, Match.precedes]
  obtain ⟨hshared, score, hscore, -, hzero, hone⟩ :=
    @similarity_counts_matches ['a', 'b', 'a', 'b'] ['a', 'b'] (by decide) (by decide) 5 (by decide)
  rw [hfound, hclamp, hleft] at hshared
  rw [hfound] at hzero
  rw [hfound, hclamp, hleft, hright] at hone
  exact ⟨by decide, by decide, by decide, hfound, hshared.symm, score, hscore,
    mt hzero.mp (by decide), mt hone.mp (by decide)⟩

end SourceSimilarity.Fingerprint
