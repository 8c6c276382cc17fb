import SourceSimilarity.Proofs.Fingerprint.Exhaustion

/-!
# Texts of which one begins with the other

Their tiling is one segment from the front of both texts, as long as the shorter text. However often
the windows repeat, the offset zero is tried first, and no run is longer than the one there.
-/

namespace SourceSimilarity.Fingerprint

namespace Tiling

variable {left right : Text} {width : Nat}

/-- On a new board no run is longer than one of the texts. -/
theorem Board.commonRun_ofText_le (left right : Text) (offset : Nat) :
    (ofText left).commonRun offset right ≤ min left.length right.length := by
  by_contra hlong
  obtain ⟨c, hright, hleft⟩ := (ofText left).of_lt_commonRun (Nat.lt_of_not_le hlong)
  rw [free?_ofText] at hleft
  have := (List.getElem?_eq_some_iff.mp hleft).1
  have := (List.getElem?_eq_some_iff.mp hright).1
  omega

/-- If the texts begin with the same, the run at their fronts is as long as the shorter one. -/
theorem Board.commonRun_front
    (h : left.take (min left.length right.length) = right.take (min left.length right.length)) :
    (ofText left).commonRun 0 right = min left.length right.length := by
  apply Nat.le_antisymm
  · exact commonRun_ofText_le left right 0
  · exact (le_commonRun_ofText_iff (j := 0) (by omega)).mpr h

/-- The front of the left text is tried first for the front of the right text. -/
theorem exists_offsets_front (hwidth : 1 ≤ width) (hlength : width ≤ left.length)
    (h : left.take width = right.take width) :
    ∃ others, (OffsetIndex.ofHashes (hashes left width)).offsets
      (windowHash (right.take width)) = 0 :: others := by
  obtain ⟨rest, hhashes⟩ := exists_hashes_eq_cons hwidth hlength
  rw [OffsetIndex.ofHashes, hhashes, OffsetIndex.offsets_ofHashesFrom_cons,
    if_pos (congrArg windowHash h)]
  exact ⟨_, rfl⟩

/-- The walk begins with the run at the fronts. -/
theorem bestRun_front (hwidth : 1 ≤ width) (hlength : width ≤ min left.length right.length)
    (h : left.take (min left.length right.length) = right.take (min left.length right.length)) :
    bestRun (Board.ofText left) width ((OffsetIndex.ofHashes (hashes left width)).offsets
      (windowHash (right.take width))) right = some (min left.length right.length, 0) := by
  have hwindow : left.take width = right.take width :=
    calc
      left.take width = (left.take (min left.length right.length)).take width := by
        rw [List.take_take, Nat.min_eq_left hlength]
      _ = (right.take (min left.length right.length)).take width := by rw [h]
      _ = right.take width := by rw [List.take_take, Nat.min_eq_left hlength]
  obtain ⟨others, hoffsets⟩ := exists_offsets_front hwidth (by omega) hwindow
  have hrun := Board.commonRun_front h
  have htried : (Board.ofText left).takeFree maxCandidates
      ((OffsetIndex.ofHashes (hashes left width)).offsets (windowHash (right.take width))) =
        0 :: others.take (maxCandidates - 1) := by
    rw [takeFree_ofHashes hwidth, hoffsets]
    rfl
  rw [← hrun] at hlength ⊢
  refine bestRun_of_forall_le htried hlength fun offset => ?_
  rw [hrun]
  exact Board.commonRun_ofText_le left right offset

/-- The walk begins with a run that is taken at the front of the right text. -/
theorem exists_greedy_eq_cons (hwidth : 1 ≤ width) (hlength : width ≤ right.length)
    {length first : Nat}
    (h : bestRun (Board.ofText left) width ((OffsetIndex.ofHashes (hashes left width)).offsets
      (windowHash (right.take width))) right = some (length, first)) :
    ∃ rest, greedy left right width = ⟨first, 0, length⟩ :: rest := by
  obtain ⟨hashes, hhashes⟩ := exists_hashes_eq_cons hwidth hlength
  obtain ⟨c, text, rfl⟩ := List.exists_cons_of_length_pos (show 0 < right.length by omega)
  rw [greedy, hhashes, walk, h]
  exact ⟨_, rfl⟩

/-- Nothing is left of the shorter text. -/
theorem greedy_front (hwidth : 1 ≤ width) (hlength : width ≤ min left.length right.length)
    (h : left.take (min left.length right.length) = right.take (min left.length right.length)) :
    greedy left right width = [⟨0, 0, min left.length right.length⟩] := by
  obtain ⟨rest, hgreedy⟩ :=
    exists_greedy_eq_cons hwidth (by omega) (bestRun_front hwidth hlength h)
  cases rest with
  | nil => exact hgreedy
  | cons t rest =>
    exfalso
    have hfits : Fits (.ofText left) width 0 right t := fits_of_mem_greedy (by simp [hgreedy])
    have hpos := Nat.lt_of_lt_of_le hwidth hfits.width_le
    have hleft := hfits.left_le hpos
    have hright := hfits.right_le hpos
    have hpairwise : (greedy left right width).Pairwise _ := pairwise_greedy hwidth
    rw [hgreedy] at hpairwise
    obtain ⟨hbeside, hbehind⟩ := (List.pairwise_cons.mp hpairwise).1 t List.mem_cons_self
    have hbeside := hbeside t.left
    have hbehind := hbehind t.right
    dsimp only at hbeside hbehind
    omega

end Tiling

/-- Texts of which one begins with the other have one segment, all of the shorter text. -/
theorem tile_of_isPrefix {left right : Text} {width : Nat} (hleft : left ≠ []) (hright : right ≠ [])
    (hwidth : 1 ≤ width) (h : left <+: right ∨ right <+: left) :
    tile left right width = [⟨0, 0, min left.length right.length⟩] := by
  have hsame : left.take (min left.length right.length) =
      right.take (min left.length right.length) := by
    rcases h with h | h
    · rw [Nat.min_eq_left h.length_le, List.take_length]
      exact List.prefix_iff_eq_take.mp h
    · rw [Nat.min_eq_right h.length_le, List.take_length]
      exact (List.prefix_iff_eq_take.mp h).symm
  have hgreedy := Tiling.greedy_front (le_clampWidth hwidth)
    (clampWidth_le_min hleft hright width) hsame
  have hfew := (tile_subperm left right width).length_le
  rw [hgreedy, List.length_singleton] at hfew
  have hperm := tile_perm_greedy (Nat.lt_of_le_of_lt hfew (by decide))
  rwa [hgreedy, List.perm_singleton] at hperm

/-- The window `aa` has more places than are tried. -/
theorem tile_of_isPrefix_repeated :
    List.replicate 70 'a' ≠ [] ∧ List.replicate 90 'a' ≠ [] ∧ 1 ≤ 2 ∧
      List.replicate 70 'a' <+: List.replicate 90 'a' ∧
      tile (List.replicate 70 'a') (List.replicate 90 'a') 2 = [⟨0, 0, 70⟩] := by
  have hprefix : List.replicate 70 'a' <+: List.replicate 90 'a' := by decide
  exact ⟨by decide, by decide, by decide, hprefix,
    tile_of_isPrefix (by decide) (by decide) (by decide) (.inl hprefix)⟩

end SourceSimilarity.Fingerprint
