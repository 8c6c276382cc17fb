import SourceSimilarity.Proofs.Fingerprint.Collision
import SourceSimilarity.Proofs.Fingerprint.Quotient
import SourceSimilarity.Proofs.Fingerprint.Windows

/-!
# The score is a Jaccard index

The score of two texts is the share of common hashes among all their hashes. There are fewer hashes
than a float can count, so nothing of this is lost to rounding at the ends of the scale: the score
is one only for the same hashes and zero only for different ones.
-/

namespace SourceSimilarity.Fingerprint

open Finset

/-- Hashes stay below the prime, so there are at most as many. -/
theorem card_hashes_le (left right : Text) (width : Nat) :
    ((hashes left width).toFinset ∪ (hashes right width).toFinset).card ≤ 1000000007 := by
  have hsubset : ((hashes left width).toFinset ∪ (hashes right width).toFinset).image
      UInt64.toNat ⊆ range 1000000007 := by
    intro n hn
    obtain ⟨hash, hhash, rfl⟩ := mem_image.mp hn
    rw [mem_range]
    rcases mem_union.mp hhash with hmem | hmem
    · exact toNat_lt_of_mem_hashes (List.mem_toFinset.mp hmem)
    · exact toNat_lt_of_mem_hashes (List.mem_toFinset.mp hmem)
  have hcard := card_le_card hsubset
  rwa [card_range, card_image_of_injective _ fun _ _ => UInt64.toNat_inj.mp] at hcard

/-- With its width cut down to two texts neither of which is empty, each of them has a window. -/
theorem hashes_nonempty {left right : Text} (hleft : left ≠ []) (hright : right ≠ []) {width : Nat}
    (hwidth : 0 < width) : (hashes left (clampWidth width left right)).toFinset.Nonempty := by
  have hlength := (clampWidth_le_min hleft hright width).trans (min_le_left _ _)
  have hpos : 1 ≤ clampWidth width left right := le_clampWidth hwidth
  rw [List.toFinset_nonempty_iff, Ne, hashes_eq_nil_iff]
  omega

/-- The score is the quotient of the counts of common hashes and of all hashes, of which there are
some on both sides, and it tells the ends of the scale exactly. -/
structure IsJaccard (score : Float) (left right : Finset UInt64) : Prop where
  left_nonempty : left.Nonempty
  right_nonempty : right.Nonempty
  total_pos : 0 < (left ∪ right).card
  shared_le : (left ∩ right).card ≤ (left ∪ right).card
  eq_quotient : score = Float.ofNat (left ∩ right).card / Float.ofNat (left ∪ right).card
  eq_one_iff : score = 1.0 ↔ left = right
  eq_zero_iff : score = 0.0 ↔ Disjoint left right

theorem isJaccard_quotient {left right : Finset UInt64} (hleft : left.Nonempty)
    (hright : right.Nonempty) (hcard : (left ∪ right).card ≤ 1000000007) :
    IsJaccard (Float.ofNat (left ∩ right).card / Float.ofNat (left ∪ right).card) left right := by
  have hpos : 0 < (left ∪ right).card := card_pos.mpr (hleft.mono subset_union_left)
  have hsubset : left ∩ right ⊆ left ∪ right := inter_subset_left.trans subset_union_left
  have hle := card_le_card hsubset
  constructor
  case left_nonempty => exact hleft
  case right_nonempty => exact hright
  case total_pos => exact hpos
  case shared_le => exact hle
  case eq_quotient => rfl
  case eq_one_iff =>
    rw [ofNat_div_eq_one_iff hle hpos (by omega)]
    constructor
    · intro heq
      exact inf_eq_sup.mp (eq_of_subset_of_card_le hsubset heq.ge)
    · rintro rfl
      rw [inter_self, union_self]
  case eq_zero_iff =>
    rw [ofNat_div_eq_zero_iff hle hpos (by omega), card_eq_zero, disjoint_iff_inter_eq_empty]

section Texts

variable {left right : Text} (hleft : left ≠ []) (hright : right ≠ []) {width : Nat}
  (hwidth : 0 < width)
include hleft hright hwidth

theorem isJaccard_hashes :
    IsJaccard (Overlap.ofTexts left right width).score
      (hashes left (clampWidth width left right)).toFinset
      (hashes right (clampWidth width left right)).toFinset := by
  have hnonempty := hashes_nonempty hleft hright hwidth
  have hnonempty' := hashes_nonempty hright hleft hwidth
  rw [clampWidth_comm] at hnonempty'
  have hjaccard := isJaccard_quotient hnonempty hnonempty' (card_hashes_le left right _)
  have hscore : (Overlap.ofTexts left right width).score =
      Float.ofNat ((hashes left (clampWidth width left right)).toFinset ∩
          (hashes right (clampWidth width left right)).toFinset).card /
        Float.ofNat ((hashes left (clampWidth width left right)).toFinset ∪
          (hashes right (clampWidth width left right)).toFinset).card := by
    rw [Overlap.ofTexts_eq, Overlap.score]
    exact if_neg (Nat.ne_of_gt hjaccard.total_pos)
  rwa [hscore]

theorem similarity_eq_score :
    similarity left right width = .ok (Overlap.ofTexts left right width).score := by
  rw [similarity_eq_ok left right hwidth, scoreOf, List.isEmpty_eq_false_iff.mpr hleft,
    List.isEmpty_eq_false_iff.mpr hright]

end Texts

theorem similarity_self (text : Text) {width : Nat} (hwidth : 0 < width) :
    similarity text text width = .ok 1.0 := by
  cases text with
  | nil => rw [similarity_eq_ok _ _ hwidth]; rfl
  | cons c rest =>
    have hne : c :: rest ≠ [] := List.cons_ne_nil _ _
    rw [similarity_eq_score hne hne hwidth, (isJaccard_hashes hne hne hwidth).eq_one_iff.mpr rfl]

/-- Without a width there is no score. With one every text scores one with itself, and two texts
that are not empty score the share of their common hashes, whichever comes first. -/
theorem similarity_isJaccard :
    (∀ left right : Text, similarity left right 0 = .error .zeroWidth) ∧
    ∀ width, 0 < width → (∀ text : Text, similarity text text width = .ok 1.0) ∧
      ∀ left right : Text, left ≠ [] → right ≠ [] →
        similarity right left width = similarity left right width ∧
        ∃ score, similarity left right width = .ok score ∧
          IsJaccard score (hashes left (clampWidth width left right)).toFinset
            (hashes right (clampWidth width left right)).toFinset := by
  refine ⟨fun _ _ => if_pos rfl, fun width hwidth => ⟨fun text => similarity_self text hwidth, ?_⟩⟩
  intro left right hleft hright
  constructor
  · rw [similarity_eq_ok _ _ hwidth, similarity_eq_ok _ _ hwidth, scoreOf_comm]
  · exact ⟨_, similarity_eq_score hleft hright hwidth, isJaccard_hashes hleft hright hwidth⟩

/-- A width of five is cut down to two, so `ba` shares its one window with three windows of `abac`.
-/
theorem similarity_isJaccard_third :
    0 < 5 ∧ "ba".toList ≠ [] ∧ "abac".toList ≠ [] ∧
      similarity "ba".toList "abac".toList 5 = .ok (Float.ofNat 1 / Float.ofNat 3) ∧
      similarity "abac".toList "ba".toList 5 = similarity "ba".toList "abac".toList 5 ∧
      similarity "ba".toList "abac".toList 5 ≠ .ok 1.0 ∧
      similarity "ba".toList "abac".toList 5 ≠ .ok 0.0 := by
  obtain ⟨hcomm, score, hscore, h⟩ := (similarity_isJaccard.2 5 (by decide)).2 "ba".toList
    "abac".toList (by decide) (by decide)
  have hleft : (hashes "ba".toList (clampWidth 5 "ba".toList "abac".toList)).toFinset =
      {25185} := by decide
  have hright : (hashes "abac".toList (clampWidth 5 "ba".toList "abac".toList)).toFinset =
      {24930, 25185, 24931} := by decide
  rw [hleft, hright] at h
  have hthird : score = Float.ofNat 1 / Float.ofNat 3 := h.eq_quotient
  have hone : score ≠ 1.0 := mt h.eq_one_iff.mp (by decide)
  have hzero : score ≠ 0.0 := mt h.eq_zero_iff.mp (by decide)
  refine ⟨by decide, by decide, by decide, hthird ▸ hscore, hcomm, ?_, ?_⟩
  · rw [hscore]
    exact fun heq => hone (Except.ok.inj heq)
  · rw [hscore]
    exact fun heq => hzero (Except.ok.inj heq)

end SourceSimilarity.Fingerprint
