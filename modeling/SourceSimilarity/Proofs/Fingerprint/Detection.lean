import SourceSimilarity.Proofs.Fingerprint.Exhaustion

/-!
# Shared text is detected

Texts that share a window have a segment in their tiling, unless collisions stand in the way: at
each place only so many windows with the right hash are tried, and these may all be other windows.
A tiling is empty exactly if that happens to every window the texts share.
-/

namespace SourceSimilarity.Fingerprint

/-- How many windows in front of the first `window` of a text have its hash. They are other windows,
so these are the collisions that come before it. -/
def collisionsBefore (text : Text) (width : Nat) (window : Text) : Nat :=
  ((hashes text width).take ((windows text width).idxOf window)).count (windowHash window)

section Collisions

variable {text : Text} {width : Nat} {window : Text}

theorem getElem?_idxOf_windows (h : window ∈ windows text width) :
    (windows text width)[(windows text width).idxOf window]? = some window := by
  rw [List.getElem?_eq_getElem (List.idxOf_lt_length_of_mem h), List.getElem_idxOf]

/-- In front of any place of a window there are at least the collisions in front of the first. -/
theorem collisionsBefore_le {i : Nat} (h : (windows text width)[i]? = some window) :
    collisionsBefore text width window ≤
      ((hashes text width).take i).count (windowHash window) := by
  obtain ⟨hi, hwindow⟩ := List.getElem?_eq_some_iff.mp h
  have hfirst : (windows text width).idxOf window ≤ i := by
    refine Nat.le_of_not_lt fun hlt => ?_
    have hother := List.not_of_lt_findIdx hlt
    simp [hwindow] at hother
  exact (List.take_sublist_take_left hfirst).count_le _

end Collisions

namespace Tiling

variable {left right : Text} {width : Nat}

/-- The walk gets to its first segment with all characters free. -/
theorem boardAt_first {s : Segment} {rest : List Segment}
    (h : greedy left right width = s :: rest) (hwidth : 1 ≤ width) :
    boardAt left right width s.right = Board.ofText left := by
  have hlater : (s :: rest).Pairwise fun s t => s.right + s.length ≤ t.right :=
    h ▸ (pairwise_walk hwidth 0 _ right).imp And.left
  have hnone : startingBefore rest s.right = [] := by
    rw [startingBefore, List.filter_eq_nil_iff]
    intro t ht
    have := (List.pairwise_cons.mp hlater).1 t ht
    simp only [decide_eq_true_eq]
    omega
  rw [boardAt, h, startingBefore_cons_of_le (Nat.le_refl _), hnone]
  rfl

/-- The first segment shows a window that the texts share, and stands behind few collisions. -/
theorem exists_tried_of_greedy_ne_nil (hwidth : 1 ≤ width) (h : greedy left right width ≠ []) :
    ∃ (i j : Nat) (window : Text), (windows left width)[i]? = some window ∧
      (windows right width)[j]? = some window ∧
      ((hashes left width).take i).count (windowHash window) < maxCandidates := by
  obtain ⟨s, rest, hgreedy⟩ := List.exists_cons_of_ne_nil h
  have hs : s ∈ greedy left right width := by simp [hgreedy]
  have hfits := fits_of_mem_greedy hs
  have hlength := hfits.width_le
  have hleft := hfits.left_le (Nat.lt_of_lt_of_le hwidth hlength)
  have hright := hfits.right_le (Nat.lt_of_lt_of_le hwidth hlength)
  have hwindow : (windows right width)[s.right]? = some ((right.drop s.right).take width) :=
    (getElem?_windows_eq_some_iff hwidth).mpr ⟨by omega, rfl⟩
  have hshared : (windows left width)[s.left]? = some ((right.drop s.right).take width) :=
    (getElem?_windows_eq_some_iff hwidth).mpr
      ⟨by omega, hfits.take_drop_add_eq (j := 0) (by omega)⟩
  refine ⟨s.left, s.right, _, hshared, hwindow, ?_⟩
  obtain ⟨hash, hhash, hrun⟩ := bestRun_of_mem_greedy hs
  obtain rfl : hash = windowHash ((right.drop s.right).take width) := by
    rw [getElem?_hashes_of_windows hwindow] at hhash
    exact (Option.some.inj hhash).symm
  have htried := (of_bestRun hrun).1
  rw [boardAt_first hgreedy hwidth, takeFree_ofHashes hwidth] at htried
  exact (OffsetIndex.mem_take_offsets_ofHashes.mp htried).2

/-- The walk finds nothing exactly if every shared window stands behind too many collisions. -/
theorem greedy_eq_nil_iff (hwidth : 1 ≤ width) :
    greedy left right width = [] ↔
      ∀ window ∈ windows left width, window ∈ windows right width →
        maxCandidates ≤ collisionsBefore left width window := by
  constructor
  · intro hnil window hleft hright
    by_contra hlt
    obtain ⟨j, hj⟩ := List.mem_iff_getElem?.mp hright
    obtain ⟨s, hs, -⟩ := exists_earlier_of_shared hwidth (getElem?_idxOf_windows hleft) hj
      (Nat.lt_of_not_le hlt) (by simp [hnil])
    simp [hnil] at hs
  · intro hhidden
    by_contra hne
    obtain ⟨i, j, window, hi, hj, hrank⟩ := exists_tried_of_greedy_ne_nil hwidth hne
    have hmany := hhidden window (List.mem_of_getElem? hi) (List.mem_of_getElem? hj)
    exact absurd (Nat.le_trans hmany (collisionsBefore_le hi)) (Nat.not_le.mpr hrank)

end Tiling

section Tile

open Tiling

/-- Cutting a tiling down leaves something of it. -/
theorem tile_eq_nil_iff_greedy {left right : Text} {width : Nat} :
    tile left right width = [] ↔ greedy left right (clampWidth width left right) = [] := by
  constructor
  · intro hnil
    have hfew : (tile left right width).length < maxSegments := by
      rw [hnil]
      decide
    have hperm := tile_perm_greedy hfew
    rw [hnil] at hperm
    exact List.nil_perm.mp hperm
  · intro hnil
    have hle := (tile_subperm left right width).length_le
    rw [hnil] at hle
    exact List.eq_nil_of_length_eq_zero (Nat.le_zero.mp hle)

/-- A tiling is empty exactly if each window that the texts share stands behind too many others with
its hash. In particular it is empty if they share none. -/
theorem tile_eq_nil_iff (left right : Text) (width : Nat) :
    tile left right width = [] ↔
      ∀ window ∈ windows left (clampWidth width left right),
        window ∈ windows right (clampWidth width left right) →
          64 ≤ collisionsBefore left (clampWidth width left right) window := by
  rw [tile_eq_nil_iff_greedy]
  rcases Nat.eq_zero_or_pos (clampWidth width left right) with hzero | hpos
  · simp [hzero, greedy, hashes, windows, walk]
  · exact greedy_eq_nil_iff hpos

/-- A text that has `~!` sixty-four times in front of `^‡`, which has the same hash. -/
def crowded : Text :=
  (List.replicate 64 ['~', '!']).flatten ++ ['^', '‡']

/-- Texts can share a window and have no segment: of the windows with the hash of `^‡` those that
are tried are all `~!`. -/
theorem not_forall_tile_eq_nil_iff :
    ¬ ∀ (left right : Text) (width : Nat), left ≠ [] → right ≠ [] → 1 ≤ width →
      (tile left right width = [] ↔
        ∀ window ∈ windows left (clampWidth width left right),
          window ∉ windows right (clampWidth width left right)) := by
  intro h
  have hiff := h crowded ['^', '‡'] 2 (by decide) (by decide) (by decide)
  have hclamp : clampWidth 2 crowded ['^', '‡'] = 2 := by decide +kernel
  have hwindows : windows ['^', '‡'] 2 = [['^', '‡']] := by decide
  have hshared : ['^', '‡'] ∈ windows crowded 2 := by decide +kernel
  have hcollisions : maxCandidates ≤ collisionsBefore crowded 2 ['^', '‡'] := by decide +kernel
  have hempty : tile crowded ['^', '‡'] 2 = [] := by
    rw [tile_eq_nil_iff_greedy, hclamp, greedy_eq_nil_iff (by decide), hwindows]
    intro window _ hmem
    rw [List.mem_singleton.mp hmem]
    exact hcollisions
  rw [hclamp, hwindows] at hiff
  exact hiff.mp hempty _ hshared (List.mem_singleton_self _)

end Tile

end SourceSimilarity.Fingerprint
