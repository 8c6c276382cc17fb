import Mathlib.Algebra.Order.Field.Basic
import Mathlib.Algebra.Order.Field.Rat
import Mathlib.Tactic.NormNum
import SourceSimilarity.Proofs.Fingerprint.Hash
import SourceSimilarity.Proofs.Fingerprint.Overlap
import SourceSimilarity.Proofs.Fingerprint.Tiling

/-!
# Scores under collisions

Windows with one hash count as one window. That can only raise the score as long as the windows that
both texts have are told apart. Where two of those have one hash, the shared part shrinks by more
than the whole does, and the score is too low.
-/

namespace SourceSimilarity.Fingerprint

open Finset

/-- The different windows of a text. -/
def windowSet (text : Text) (width : Nat) : Finset Text :=
  (windows text width).toFinset

theorem toFinset_hashes (text : Text) (width : Nat) :
    (hashes text width).toFinset = (windowSet text width).image windowHash := by
  ext hash
  rw [hashes_eq_map_windowHash, windowSet, List.mem_toFinset, List.mem_map, mem_image]
  simp only [List.mem_toFinset]

/-- The different windows that two texts share. -/
def sharedWindows (left right : Text) (width : Nat) : Finset Text :=
  windowSet left (clampWidth width left right) ∩ windowSet right (clampWidth width left right)

/-- The different windows of two texts. -/
def allWindows (left right : Text) (width : Nat) : Finset Text :=
  windowSet left (clampWidth width left right) ∪ windowSet right (clampWidth width left right)

namespace Overlap

/-- The overlap of two texts by their windows instead of the hashes of these. -/
def ofWindows (left right : Text) (width : Nat) : Overlap where
  shared := (sharedWindows left right width).card
  total := (allWindows left right width).card

/-- The share as an exact fraction. -/
def ratio (overlap : Overlap) : ℚ :=
  overlap.shared / overlap.total

end Overlap

/-! ## What a collision does to the counts -/

variable {left right : Text} {width : Nat}

theorem total_ofTexts :
    (Overlap.ofTexts left right width).total =
      ((allWindows left right width).image windowHash).card := by
  rw [Overlap.ofTexts_eq, toFinset_hashes, toFinset_hashes, ← image_union, allWindows]

/-- There are never more hashes than windows. -/
theorem total_ofTexts_le :
    (Overlap.ofTexts left right width).total ≤ (Overlap.ofWindows left right width).total := by
  rw [total_ofTexts]
  exact card_image_le

/-- Shared windows have shared hashes, and these are as many unless two of the windows collide. -/
theorem shared_ofWindows_le
    (h : Set.InjOn windowHash (sharedWindows left right width : Set Text)) :
    (Overlap.ofWindows left right width).shared ≤ (Overlap.ofTexts left right width).shared := by
  rw [Overlap.ofTexts_eq, toFinset_hashes, toFinset_hashes]
  calc (sharedWindows left right width).card
      = ((sharedWindows left right width).image windowHash).card := (card_image_of_injOn h).symm
    _ ≤ _ := card_le_card (image_inter_subset _ _ _)

theorem take_mem_windows {text : Text} (hwidth : 0 < width) (hlength : width ≤ text.length) :
    text.take width ∈ windows text width := by
  unfold windows
  rw [if_neg (by omega)]
  exact List.mem_map.mpr ⟨0, List.mem_range.mpr (Nat.succ_pos _), rfl⟩

theorem total_ofTexts_pos (hleft : left ≠ []) (hright : right ≠ []) (hwidth : 0 < width) :
    0 < (Overlap.ofTexts left right width).total := by
  have hlength := (clampWidth_le_min hleft hright width).trans (min_le_left _ _)
  have hmem : left.take (clampWidth width left right) ∈ allWindows left right width :=
    mem_union_left _ (List.mem_toFinset.mpr (take_mem_windows (le_clampWidth hwidth) hlength))
  rw [total_ofTexts]
  exact card_pos.mpr (Nonempty.image ⟨_, hmem⟩ _)

/-! ## What it does to the score -/

/-- The score is at least the share of common windows, if no two common windows collide. -/
theorem ratio_ofWindows_le_ratio_ofTexts (hleft : left ≠ []) (hright : right ≠ [])
    (hwidth : 0 < width) (h : Set.InjOn windowHash (sharedWindows left right width : Set Text)) :
    similarity left right width = .ok (Overlap.ofTexts left right width).score ∧
      (Overlap.ofWindows left right width).ratio ≤ (Overlap.ofTexts left right width).ratio := by
  constructor
  · rw [similarity_eq_ok left right hwidth, scoreOf, List.isEmpty_eq_false_iff.mpr hleft,
      List.isEmpty_eq_false_iff.mpr hright]
  · unfold Overlap.ratio
    have htotal : (0 : ℚ) < (Overlap.ofTexts left right width).total :=
      Nat.cast_pos.mpr (total_ofTexts_pos hleft hright hwidth)
    exact div_le_div₀ (Nat.cast_nonneg _) (Nat.cast_le.mpr (shared_ofWindows_le h)) htotal
      (Nat.cast_le.mpr total_ofTexts_le)

/-- Windows that only one text each has may collide. Here `~!` and `^‡` have one hash, so two texts
that share a fifth of their windows seem to share a half. -/
theorem ratio_ofWindows_le_ratio_ofTexts_apart :
    sharedWindows "~!ab".toList "^‡ab".toList 2 = ["ab".toList].toFinset ∧
      similarity "~!ab".toList "^‡ab".toList 2 =
        .ok (Overlap.ofTexts "~!ab".toList "^‡ab".toList 2).score ∧
      (Overlap.ofWindows "~!ab".toList "^‡ab".toList 2).ratio ≤
        (Overlap.ofTexts "~!ab".toList "^‡ab".toList 2).ratio := by
  have hshared : sharedWindows "~!ab".toList "^‡ab".toList 2 = ["ab".toList].toFinset := by
    decide
  have hinj : Set.InjOn windowHash (sharedWindows "~!ab".toList "^‡ab".toList 2 : Set Text) := by
    rw [hshared, List.toFinset_cons, List.toFinset_nil, insert_empty_eq, coe_singleton]
    exact Set.injOn_singleton _ _
  exact ⟨hshared, ratio_ofWindows_le_ratio_ofTexts (by decide) (by decide) (by decide) hinj⟩

/-- Where two shared windows collide the score is too low. The texts share three windows of five,
among them `~!` and `^‡`, and seem to share two of four. -/
theorem not_forall_ratio_ofWindows_le :
    ¬ ∀ (left right : Text) (width : Nat), left ≠ [] → right ≠ [] → 0 < width →
      (Overlap.ofWindows left right width).ratio ≤ (Overlap.ofTexts left right width).ratio := by
  intro h
  have hle := h "~!^‡+".toList "~!^‡-".toList 2 (by decide) (by decide) (by decide)
  have hwindows : Overlap.ofWindows "~!^‡+".toList "~!^‡-".toList 2 = ⟨3, 5⟩ := by decide
  have htexts : Overlap.ofTexts "~!^‡+".toList "~!^‡-".toList 2 = ⟨2, 4⟩ := by
    rw [Overlap.ofTexts_eq]
    decide
  rw [hwindows, htexts] at hle
  norm_num [Overlap.ratio] at hle

end SourceSimilarity.Fingerprint
