import Mathlib.Data.Finset.Card
import SourceSimilarity.Fingerprint.Overlap

/-!
# Overlaps count sets

The overlap of two texts counts the hashes in the intersection and in the union of two sets. So it
does not matter which of the texts comes first, for the score and for the width that is used.
-/

namespace SourceSimilarity.Fingerprint

open Finset

/-! ## Sets of hashes -/

/-- The different hashes of a set that is looked up by hashing. -/
def distinct (hashes : Std.HashSet UInt64) : Finset UInt64 :=
  hashes.toList.toFinset

theorem nodup_toList {α : Type} [BEq α] [Hashable α] [LawfulBEq α] (set : Std.HashSet α) :
    set.toList.Nodup :=
  Std.HashSet.distinct_toList.imp fun h => by simpa using h

theorem card_distinct (hashes : Std.HashSet UInt64) : (distinct hashes).card = hashes.size := by
  rw [distinct, List.toFinset_card_of_nodup (nodup_toList hashes), Std.HashSet.length_toList]

theorem distinct_hashSet (text : Text) (width : Nat) :
    distinct (hashSet text width) = (hashes text width).toFinset := by
  ext hash
  rw [distinct, List.mem_toFinset, Std.HashSet.mem_toList, hashSet, Std.HashSet.mem_ofList,
    List.contains_iff_mem, List.mem_toFinset]

theorem length_filter_contains (left right : Std.HashSet UInt64) :
    (left.toList.filter right.contains).length = (distinct left ∩ distinct right).card := by
  rw [← List.toFinset_card_of_nodup ((nodup_toList left).filter _)]
  congr 1
  ext hash
  simp only [distinct, List.mem_toFinset, List.mem_filter, mem_inter, Std.HashSet.mem_toList,
    Std.HashSet.contains_iff_mem]

namespace Overlap

theorem ofSets_eq (left right : Std.HashSet UInt64) :
    ofSets left right =
      ⟨(distinct left ∩ distinct right).card, (distinct left ∪ distinct right).card⟩ := by
  unfold ofSets
  rw [length_filter_contains, card_union, card_distinct, card_distinct]

/-- The overlap of two texts by the sets of the hashes of their windows. -/
theorem ofTexts_eq (left right : Text) (width : Nat) :
    ofTexts left right width =
      ⟨((hashes left (clampWidth width left right)).toFinset ∩
          (hashes right (clampWidth width left right)).toFinset).card,
        ((hashes left (clampWidth width left right)).toFinset ∪
          (hashes right (clampWidth width left right)).toFinset).card⟩ := by
  rw [ofTexts, ofSets_eq, distinct_hashSet, distinct_hashSet]

end Overlap

/-! ## The width cut down -/

theorem clampWidth_comm (width : Nat) (left right : Text) :
    clampWidth width left right = clampWidth width right left := by
  unfold clampWidth
  rw [Nat.min_comm]

theorem clampWidth_clampWidth (width : Nat) (left right : Text) :
    clampWidth (clampWidth width left right) left right = clampWidth width left right := by
  unfold clampWidth
  dsimp only
  by_cases h : 0 < min left.length right.length ∧ min left.length right.length < width
  · rw [if_pos h, if_neg (by omega)]
  · rw [if_neg h, if_neg h]

theorem le_clampWidth {width : Nat} {left right : Text} (h : 1 ≤ width) :
    1 ≤ clampWidth width left right := by
  unfold clampWidth
  dsimp only
  split <;> omega

theorem clampWidth_le_min {left right : Text} (hleft : left ≠ []) (hright : right ≠ [])
    (width : Nat) : clampWidth width left right ≤ min left.length right.length := by
  have := List.length_pos_iff.mpr hleft
  have := List.length_pos_iff.mpr hright
  unfold clampWidth
  dsimp only
  split <;> omega

/-! ## The two texts exchanged -/

theorem Overlap.ofTexts_comm (left right : Text) (width : Nat) :
    ofTexts left right width = ofTexts right left width := by
  rw [ofTexts_eq, ofTexts_eq, clampWidth_comm, inter_comm, union_comm]

/-- The score of two texts where one can be given, that is for every width but zero. -/
def scoreOf (left right : Text) (width : Nat) : Float :=
  match left.isEmpty, right.isEmpty with
  | true, true => 1.0
  | false, false => (Overlap.ofTexts left right width).score
  | _, _ => 0.0

theorem similarity_eq_ok (left right : Text) {width : Nat} (hwidth : 0 < width) :
    similarity left right width = .ok (scoreOf left right width) := by
  unfold similarity scoreOf
  rw [if_neg (Nat.ne_of_gt hwidth)]
  cases left.isEmpty <;> cases right.isEmpty <;> rfl

theorem scoreOf_comm (left right : Text) (width : Nat) :
    scoreOf left right width = scoreOf right left width := by
  unfold scoreOf
  rw [Overlap.ofTexts_comm]
  cases left.isEmpty <;> cases right.isEmpty <;> rfl

end SourceSimilarity.Fingerprint
