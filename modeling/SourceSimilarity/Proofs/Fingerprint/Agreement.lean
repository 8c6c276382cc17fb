import SourceSimilarity.Proofs.Fingerprint.Match
import SourceSimilarity.Proofs.Fingerprint.Segment
import SourceSimilarity.Proofs.Fingerprint.Tiling

/-!
# Tilings agree with the list of matches

A tiling finds its segments without the list of matches. Still every window of a segment is a match,
because equal windows have equal hashes, so the segment lies inside one of the runs that the matches
make up.
-/

namespace SourceSimilarity.Fingerprint

/-! ## The segments of a tiling -/

section Tile

variable {left right : Text} {width : Nat} {s : Segment}

/-- Where a segment shows the same in both texts, so does each of its windows. -/
theorem mem_findMatches_of_fits (hwidth : 0 < clampWidth width left right)
    (hs : Tiling.Fits (.ofText left) (clampWidth width left right) 0 right s) {m : Match}
    (hm : s.HasWindow (clampWidth width left right) m) : m ∈ findMatches left right width := by
  obtain ⟨j, hj, rfl⟩ := hm
  have hleft := hs.left_le (by omega)
  have hright := hs.right_le (by omega)
  show (⟨s.left + j, s.right + j⟩ : Match) ∈ findMatches left right width
  exact mem_findMatches_of_take_drop_eq hwidth (by omega) (by omega) (hs.take_drop_add_eq hj)

/-- The windows of a segment of the tiling are matches, and the segment lies inside the one run of
matches that its first window is in. -/
theorem tile_within_diagonalSegments (hs : s ∈ tile left right width) :
    (∀ m, s.HasWindow (clampWidth width left right) m → m ∈ findMatches left right width) ∧
    ∃ t ∈ diagonalSegments (findMatches left right (clampWidth width left right))
        (clampWidth width left right),
      t.HasWindow (clampWidth width left right) s.start ∧ s.Within t ∧
      ∀ t' ∈ diagonalSegments (findMatches left right (clampWidth width left right))
          (clampWidth width left right),
        t'.HasWindow (clampWidth width left right) s.start → t' = t := by
  have hfits := fits_of_mem_tile hs
  have hwidth : 0 < clampWidth width left right := le_clampWidth (width_pos_of_mem_tile hs)
  have hwindows (m : Match) (hm : s.HasWindow (clampWidth width left right) m) :
      m ∈ findMatches left right width := mem_findMatches_of_fits hwidth hfits hm
  have hfound (m : Match) (hm : s.HasWindow (clampWidth width left right) m) :
      m ∈ findMatches left right (clampWidth width left right) :=
    mem_findMatches_clampWidth.mpr (hwindows m hm)
  obtain ⟨t, ht, hwindow⟩ :=
    exists_isMaximalRun hwidth (hfound _ (Segment.hasWindow_start hfits.width_le))
  refine ⟨hwindows, t, (mem_diagonalSegments_iff hwidth).mpr ht, hwindow, ht.within hfound hwindow,
    fun t' ht' hwindow' => ?_⟩
  exact ((mem_diagonalSegments_iff hwidth).mp ht').eq_of_hasWindow ht hwindow' hwindow

end Tile

/-- The walk takes the left `b` first. When it gets to `ab`, only the first half of this run is left
to it. -/
theorem tile_within_diagonalSegments_half :
    ⟨0, 1, 1⟩ ∈ tile ['a', 'b'] ['b', 'a', 'b'] 1 ∧
      (⟨0, 1⟩ : Match) ∈ findMatches ['a', 'b'] ['b', 'a', 'b'] 1 ∧
      ∃ t ∈ diagonalSegments (findMatches ['a', 'b'] ['b', 'a', 'b'] 1) 1,
        t.HasWindow 1 ⟨0, 1⟩ ∧ (⟨0, 1, 1⟩ : Segment).Within t := by
  have hleft : hashes ['a', 'b'] 1 = [97, 98] := by decide
  have hright : hashes ['b', 'a', 'b'] 1 = [98, 97, 98] := by decide
  have hgreedy : Tiling.greedy ['a', 'b'] ['b', 'a', 'b'] 1 = [⟨1, 0, 1⟩, ⟨0, 1, 1⟩] := by
    simp [Tiling.greedy, hleft, hright, Tiling.walk, Tiling.bestRun, maxCandidates,
      OffsetIndex.ofHashes, OffsetIndex.offsets_ofHashesFrom_cons, Tiling.Board.ofText,
      Tiling.Board.takeFree, Tiling.Board.commonRun, Tiling.Board.free?, Tiling.Board.cover]
  have hmem : ⟨0, 1, 1⟩ ∈ tile ['a', 'b'] ['b', 'a', 'b'] 1 := by
    simp [tile, clampWidth, hgreedy, Tiling.longest, maxSegments]
  obtain ⟨hwindows, t, ht, hwindow, hwithin, -⟩ := tile_within_diagonalSegments hmem
  exact ⟨hmem, hwindows ⟨0, 1⟩ ⟨0, by decide, rfl⟩, t, ht, hwindow, hwithin⟩

end SourceSimilarity.Fingerprint
