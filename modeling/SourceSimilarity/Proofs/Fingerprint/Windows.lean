import Mathlib.Algebra.BigOperators.Fin
import SourceSimilarity.Proofs.Fingerprint.Hash

/-!
# Windows by their place

The hash that a text has at a place is that of the window which begins there: its characters are the
digits of a number in base 256, taken modulo the prime. A place with too few characters behind it
has no hash.
-/

namespace SourceSimilarity.Fingerprint

variable {text : Text} {width i : Nat}

/-! ## One window -/

theorem getElem?_windows (hwidth : 0 < width) :
    (windows text width)[i]? =
      if i + width ≤ text.length then some ((text.drop i).take width) else none := by
  unfold windows
  split
  · rw [List.getElem?_nil, if_neg (by omega)]
  · rw [List.getElem?_map]
    by_cases hi : i < text.length - width + 1
    · rw [List.getElem?_range hi, if_pos (by omega)]
      rfl
    · rw [List.getElem?_eq_none (by simpa using hi), if_neg (by omega)]
      rfl

theorem getElem?_hashes (hwidth : 0 < width) :
    (hashes text width)[i]? =
      if i + width ≤ text.length then some (windowHash ((text.drop i).take width)) else none := by
  rw [hashes_eq_map_windowHash, List.getElem?_map, getElem?_windows hwidth]
  split <;> rfl

theorem getElem?_windows_eq_some_iff (hwidth : 0 < width) {window : Text} :
    (windows text width)[i]? = some window ↔
      i + width ≤ text.length ∧ (text.drop i).take width = window := by
  rw [getElem?_windows hwidth]
  by_cases h : i + width ≤ text.length
  · simp [h]
  · simp [h]

theorem getElem?_hashes_of_windows {window : Text} (h : (windows text width)[i]? = some window) :
    (hashes text width)[i]? = some (windowHash window) := by
  rw [hashes_eq_map_windowHash, List.getElem?_map, h]
  rfl

theorem length_of_mem_windows (hwidth : 0 < width) {window : Text}
    (h : window ∈ windows text width) : window.length = width := by
  obtain ⟨i, hi⟩ := List.mem_iff_getElem?.mp h
  obtain ⟨hle, rfl⟩ := (getElem?_windows_eq_some_iff hwidth).mp hi
  rw [List.length_take, List.length_drop]
  omega

theorem subset_of_mem_windows (hwidth : 0 < width) {window : Text}
    (h : window ∈ windows text width) : window ⊆ text := by
  obtain ⟨i, hi⟩ := List.mem_iff_getElem?.mp h
  obtain ⟨-, rfl⟩ := (getElem?_windows_eq_some_iff hwidth).mp hi
  exact fun _ hc => List.drop_subset _ _ (List.take_subset _ _ hc)

theorem add_le_of_getElem?_hashes (hwidth : 0 < width) {hash : UInt64}
    (h : (hashes text width)[i]? = some hash) : i + width ≤ text.length := by
  by_contra hout
  rw [getElem?_hashes hwidth, if_neg hout] at h
  cases h

theorem hashes_eq_nil_iff : hashes text width = [] ↔ width = 0 ∨ text.length < width := by
  unfold hashes
  split
  · rename_i h
    exact iff_of_true rfl h
  · rename_i h
    exact iff_of_false (List.cons_ne_nil _ _) h

/-- The first hash is that of the front of the text. -/
theorem exists_hashes_eq_cons (hwidth : 0 < width) (hlength : width ≤ text.length) :
    ∃ rest, hashes text width = windowHash (text.take width) :: rest := by
  unfold hashes
  rw [if_neg (by omega)]
  exact ⟨_, rfl⟩

theorem length_hashes (hwidth : 0 < width) (hlength : width ≤ text.length) :
    (hashes text width).length = text.length - width + 1 := by
  rw [hashes_eq_map_windowHash, List.length_map, windows, if_neg (by omega), List.length_map,
    List.length_range]

theorem toNat_lt_of_mem_hashes {hash : UInt64} (h : hash ∈ hashes text width) :
    hash.toNat < 1000000007 := by
  rw [hashes_eq_map_windowHash] at h
  obtain ⟨window, -, rfl⟩ := List.mem_map.mp h
  rw [toNat_windowHash]
  exact Nat.mod_lt _ (by decide)

/-! ## Its value -/

/-- The digits of a window in base 256 added up, each with the weight of its place. The window is of
`width` characters and begins at `i`. -/
def digitSum (text : Text) (width i : Nat) (h : i + width ≤ text.length) : Nat :=
  ∑ j : Fin width,
    (text.get ⟨i + j, Nat.lt_of_lt_of_le (Nat.add_lt_add_left j.isLt i) h⟩).toNat *
      256 ^ (width - 1 - j)

theorem digitSum_succ (h : i + (width + 1) ≤ text.length) :
    digitSum text (width + 1) i h =
      (text.get ⟨i, by omega⟩).toNat * 256 ^ width + digitSum text width (i + 1) (by omega) := by
  rw [digitSum, Fin.sum_univ_succ, digitSum]
  refine congrArg _ (Finset.sum_congr rfl fun j _ => ?_)
  have hplace : i + j.succ = i + 1 + j := by
    rw [Fin.val_succ]
    omega
  have hweight : width + 1 - 1 - j.succ = width - 1 - j := by
    rw [Fin.val_succ]
    omega
  simp only [hplace, hweight]

/-- A window spells the sum of its digits. -/
theorem value_window (h : i + width ≤ text.length) :
    value ((text.drop i).take width) = digitSum text width i h := by
  induction width generalizing i with
  | zero => rw [List.take_zero]; rfl
  | succ width ih =>
    have hlength : ((text.drop (i + 1)).take width).length = width := by
      rw [List.length_take, List.length_drop]
      omega
    rw [List.drop_eq_getElem_cons (by omega), List.take_succ_cons, value_cons, ih (by omega),
      digitSum_succ, hlength]
    rfl

/-- Every window of a text has its hash in the list, and this is the sum of its digits modulo the
prime. There are no other hashes, and none at all if the text is shorter than a window. -/
theorem hashes_direct (text : Text) (width : Nat) :
    (0 < width → width ≤ text.length →
      (hashes text width).length = text.length - width + 1 ∧
      ∀ (i : Nat) (h : i + width ≤ text.length), ∃ hash : UInt64,
        (hashes text width)[i]? = some hash ∧
        hash.toNat = digitSum text width i h % 1000000007 ∧ hash.toNat < 1000000007) ∧
    (width = 0 ∨ text.length < width → hashes text width = []) := by
  refine ⟨fun hwidth hlength => ⟨length_hashes hwidth hlength, ?_⟩, hashes_eq_nil_iff.mpr⟩
  intro i h
  have hhash : (hashes text width)[i]? = some (windowHash ((text.drop i).take width)) := by
    rw [getElem?_hashes hwidth, if_pos h]
  refine ⟨_, hhash, ?_, toNat_lt_of_mem_hashes (List.mem_of_getElem? hhash)⟩
  rw [toNat_windowHash, value_window h]

/-- Digits above the base are carried, and the sum is taken modulo the prime: `♥♣bcd` spells
42380109701988. -/
theorem hashes_direct_beyond_ascii :
    0 < 5 ∧ 5 ≤ "a♥♣bcd".toList.length ∧ (hashes "a♥♣bcd".toList 5).length = 2 ∧
      (∃ hash : UInt64, (hashes "a♥♣bcd".toList 5)[1]? = some hash ∧
        hash.toNat = 42380109701988 % 1000000007) ∧
      "a♥♣bcd".toList.length < 7 ∧ hashes "a♥♣bcd".toList 7 = [] := by
  obtain ⟨hlength, hentries⟩ := (hashes_direct "a♥♣bcd".toList 5).1 (by decide) (by decide)
  obtain ⟨hash, hhash, hvalue, -⟩ := hentries 1 (by decide)
  have hempty := (hashes_direct "a♥♣bcd".toList 7).2 (by decide)
  have hdigits : digitSum "a♥♣bcd".toList 5 1 (by decide) = 42380109701988 := by decide
  rw [hdigits] at hvalue
  exact ⟨by decide, by decide, hlength, ⟨hash, hhash, hvalue⟩, by decide, hempty⟩

end SourceSimilarity.Fingerprint
