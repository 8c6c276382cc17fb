import Mathlib.Data.List.Perm.Subperm
import SourceSimilarity.Proofs.Fingerprint.Board
import SourceSimilarity.Proofs.Fingerprint.Overlap

/-!
# Tilings are valid

Every segment of a tiling lies in both texts and shows the same characters in both, and no character
is shown twice. On the left this is what the board is for: a segment is laid on free characters only
and covers them. On the right it is the walk: no segment starts before the last one has ended.
-/

namespace SourceSimilarity.Fingerprint

/-- No offset lies in both stretches, each given by its first offset and its length. -/
def Separate (a m b n : Nat) : Prop :=
  ∀ i, ¬ ((a ≤ i ∧ i < a + m) ∧ (b ≤ i ∧ i < b + n))

theorem Separate.symm {a m b n : Nat} (h : Separate a m b n) : Separate b n a m :=
  fun i hi => h i ⟨hi.2, hi.1⟩

theorem separate_of_le {a m b n : Nat} (h : a + m ≤ b) : Separate a m b n := by
  intro i hi
  omega

/-- The segments are a valid tiling of two texts: inside both, long enough, of equal characters, no
character in two of them, not too many and ascending. -/
structure IsTiling (left right : Text) (width : Nat) (segments : List Segment) : Prop where
  left_le : ∀ s ∈ segments, s.left + s.length ≤ left.length
  right_le : ∀ s ∈ segments, s.right + s.length ≤ right.length
  width_le : ∀ s ∈ segments, width ≤ s.length
  same : ∀ s ∈ segments, (left.drop s.left).take s.length = (right.drop s.right).take s.length
  left_separate : segments.Pairwise fun s t => Separate s.left s.length t.left t.length
  right_separate : segments.Pairwise fun s t => Separate s.right s.length t.right t.length
  few : segments.length ≤ 256
  ascending : segments.Pairwise fun s t => s.left < t.left ∨ s.left = t.left ∧ s.right < t.right

namespace Tiling

/-! ## The walk -/

/-- The segment is long enough, starts no earlier than `right` does, which stands at `offset`, and
lies on free characters that read like those of `right`. -/
structure Fits (board : Board) (width offset : Nat) (right : Text) (s : Segment) : Prop where
  offset_le : offset ≤ s.right
  width_le : width ≤ s.length
  same : ∀ i < s.length, ∃ c, right[s.right - offset + i]? = some c ∧
    board.free? (s.left + i) = some c

variable {board : Board} {width offset : Nat}

/-- What fits behind a character fits from that character on. -/
theorem Fits.cons {c : Char} {right : Text} {s : Segment}
    (h : Fits board width (offset + 1) right s) : Fits board width offset (c :: right) s := by
  have hoffset := h.offset_le
  refine ⟨by omega, h.width_le, fun i hi => ?_⟩
  obtain ⟨d, hd, hfree⟩ := h.same i hi
  refine ⟨d, ?_, hfree⟩
  rw [show s.right - offset + i = s.right - (offset + 1) + i + 1 by omega, List.getElem?_cons_succ]
  exact hd

/-- What fits on a board fits before a stretch of it was covered, and lies outside that stretch. -/
theorem Fits.of_cover {left length : Nat} {right : Text} {s : Segment}
    (h : Fits (board.cover left length) width offset right s) :
    Fits board width offset right s ∧ Separate left length s.left s.length := by
  constructor
  · refine ⟨h.offset_le, h.width_le, fun i hi => ?_⟩
    obtain ⟨c, hc, hfree⟩ := h.same i hi
    exact ⟨c, hc, (board.free?_cover_iff.mp hfree).1⟩
  · rintro i ⟨hin, hs⟩
    obtain ⟨c, -, hfree⟩ := h.same (i - s.left) (by omega)
    rw [show s.left + (i - s.left) = i by omega] at hfree
    exact (board.free?_cover_iff.mp hfree).2 hin

/-- The run taken at a window fits there. -/
theorem fits_of_bestRun {offsets : List Nat} {right : Text} {length left : Nat}
    (h : bestRun board width offsets right = some (length, left)) :
    Fits board width offset right ⟨left, offset, length⟩ := by
  obtain ⟨-, hwidth, hrun⟩ := of_bestRun h
  refine ⟨Nat.le_refl _, hwidth, fun i hi => ?_⟩
  obtain ⟨c, hc, hfree⟩ := board.of_lt_commonRun (hrun ▸ hi)
  exact ⟨c, by simpa using hc, hfree⟩

/-- Every segment of the walk fits, and none starts inside the segment found last. -/
theorem fits_of_mem_walk {index : OffsetIndex} {skip : Nat} {hashes : List UInt64} {right : Text}
    {s : Segment} (hs : s ∈ walk index width board skip offset hashes right) :
    Fits board width offset right s ∧ offset + skip ≤ s.right := by
  fun_induction walk index width board skip offset hashes right with
  | case1 board offset hash hashes c rest skip ih =>
    have hfits := ih hs
    exact ⟨hfits.1.cons, by omega⟩
  | case2 board offset hash hashes c rest length left hrun ih =>
    rcases List.mem_cons.mp hs with rfl | hs
    · exact ⟨fits_of_bestRun hrun, Nat.le_refl _⟩
    · -- what is found later fits on a board with more covered
      have hfits := ih hs
      exact ⟨hfits.1.of_cover.1.cons, by omega⟩
  | case3 board offset hash hashes c rest hrun ih =>
    have hfits := ih hs
    exact ⟨hfits.1.cons, by omega⟩
  | case4 => cases hs

/-- Of two segments of the walk the later one starts behind the earlier one on the right, and lies
beside it on the left. -/
theorem pairwise_walk {index : OffsetIndex} (hwidth : 1 ≤ width) (skip : Nat)
    (hashes : List UInt64) (right : Text) :
    (walk index width board skip offset hashes right).Pairwise fun s t =>
      s.right + s.length ≤ t.right ∧ Separate s.left s.length t.left t.length := by
  fun_induction walk index width board skip offset hashes right with
  | case1 board offset hash hashes c rest skip ih => exact ih
  | case2 board offset hash hashes c rest length left hrun ih =>
    refine List.pairwise_cons.mpr ⟨fun t ht => ?_, ih⟩
    -- the segment is as long as the windows skipped behind its first one
    obtain ⟨hfits, hskip⟩ := fits_of_mem_walk ht
    have hlength := (of_bestRun hrun).2.1
    exact ⟨by simp only; omega, hfits.of_cover.2⟩
  | case3 board offset hash hashes c rest hrun ih => exact ih
  | case4 => exact .nil

/-! ## The greedy tiling -/

variable {left right : Text}

theorem fits_of_mem_greedy {s : Segment} (hs : s ∈ greedy left right width) :
    Fits (.ofText left) width 0 right s :=
  (fits_of_mem_walk hs).1

/-- A segment that fits on a new board lies in both texts and shows the same in both. -/
theorem Fits.getElem?_eq {s : Segment} (h : Fits (.ofText left) width 0 right s) {i : Nat}
    (hi : i < s.length) : ∃ c, right[s.right + i]? = some c ∧ left[s.left + i]? = some c := by
  obtain ⟨c, hc, hfree⟩ := h.same i hi
  rw [Board.free?_ofText] at hfree
  exact ⟨c, by simpa using hc, hfree⟩

theorem Fits.left_le {s : Segment} (h : Fits (.ofText left) width 0 right s) (hpos : 0 < s.length) :
    s.left + s.length ≤ left.length := by
  obtain ⟨c, -, hc⟩ := h.getElem?_eq (show s.length - 1 < s.length by omega)
  have := (List.getElem?_eq_some_iff.mp hc).1
  omega

theorem Fits.right_le {s : Segment} (h : Fits (.ofText left) width 0 right s)
    (hpos : 0 < s.length) : s.right + s.length ≤ right.length := by
  obtain ⟨c, hc, -⟩ := h.getElem?_eq (show s.length - 1 < s.length by omega)
  have := (List.getElem?_eq_some_iff.mp hc).1
  omega

/-- Each stretch of a segment reads the same in both texts. -/
theorem Fits.take_drop_add_eq {s : Segment} (h : Fits (.ofText left) width 0 right s) {j n : Nat}
    (hj : j + n ≤ s.length) :
    (left.drop (s.left + j)).take n = (right.drop (s.right + j)).take n := by
  rw [take_drop_eq_iff]
  intro i hi
  obtain ⟨c, hright, hleft⟩ := h.getElem?_eq (show j + i < s.length by omega)
  rw [Nat.add_assoc, Nat.add_assoc, hleft, hright]

theorem Fits.take_drop_eq {s : Segment} (h : Fits (.ofText left) width 0 right s) :
    (left.drop s.left).take s.length = (right.drop s.right).take s.length :=
  h.take_drop_add_eq (Nat.le_of_eq (Nat.zero_add s.length))

/-- If the characters in front of a segment agree too, so do the stretches that begin with them. -/
theorem Fits.take_drop_pred_eq {s : Segment} (h : Fits (.ofText left) width 0 right s)
    (hleft : s.left ≠ 0) (hright : s.right ≠ 0) (hsame : left[s.left - 1]? = right[s.right - 1]?)
    {n : Nat} (hn : n ≤ s.length + 1) :
    (left.drop (s.left - 1)).take n = (right.drop (s.right - 1)).take n := by
  rw [take_drop_eq_iff]
  intro i hi
  cases i with
  | zero => exact hsame
  | succ i =>
    obtain ⟨c, hc, hc'⟩ := h.getElem?_eq (show i < s.length by omega)
    rw [show s.left - 1 + (i + 1) = s.left + i by omega,
      show s.right - 1 + (i + 1) = s.right + i by omega, hc, hc']

theorem pairwise_greedy (hwidth : 1 ≤ width) :
    (greedy left right width).Pairwise fun s t =>
      Separate s.left s.length t.left t.length ∧ Separate s.right s.length t.right t.length :=
  (pairwise_walk hwidth 0 _ right).imp fun h => ⟨h.2, separate_of_le h.1⟩

/-! ## Cutting down and sorting -/

/-- Cut down or not, a tiling has the front of its ranking. -/
theorem longest_perm_take (segments : List Segment) :
    (longest segments).Perm ((segments.mergeSort Segment.outranks).take maxSegments) := by
  unfold longest
  split
  · exact .refl _
  · rename_i hfew
    rw [List.take_of_length_le (by rw [List.length_mergeSort]; omega)]
    exact (List.mergeSort_perm _ _).symm

theorem longest_subperm (segments : List Segment) : (longest segments).Subperm segments :=
  (longest_perm_take segments).subperm.trans
    ((List.take_sublist _ _).subperm.trans (List.mergeSort_perm _ _).subperm)

theorem length_longest (segments : List Segment) :
    (longest segments).length = min segments.length maxSegments := by
  rw [(longest_perm_take segments).length_eq, List.length_take, List.length_mergeSort, Nat.min_comm]

theorem length_longest_le (segments : List Segment) : (longest segments).length ≤ maxSegments := by
  rw [length_longest]
  exact Nat.min_le_right _ _

end Tiling

namespace Segment

theorem precedes_trans (a b c : Segment) : precedes a b → precedes b c → precedes a c := by
  simp only [precedes, Bool.or_eq_true, Bool.and_eq_true, decide_eq_true_eq, beq_iff_eq]
  omega

theorem precedes_total (a b : Segment) : (precedes a b || precedes b a) = true := by
  simp only [precedes, Bool.or_eq_true, Bool.and_eq_true, decide_eq_true_eq, beq_iff_eq]
  omega

theorem left_le_of_precedes {a b : Segment} (h : precedes a b) : a.left ≤ b.left := by
  simp only [precedes, Bool.or_eq_true, Bool.and_eq_true, decide_eq_true_eq, beq_iff_eq] at h
  omega

end Segment

/-- The tiling is made of segments of the greedy tiling. -/
theorem tile_subperm (left right : Text) (width : Nat) :
    (tile left right width).Subperm (Tiling.greedy left right (clampWidth width left right)) := by
  unfold tile
  split
  · exact List.nil_subperm
  · exact (List.mergeSort_perm _ _).subperm.trans (Tiling.longest_subperm _)

theorem pairwise_precedes_tile (left right : Text) (width : Nat) :
    (tile left right width).Pairwise fun s t => s.precedes t = true := by
  unfold tile
  split
  · exact .nil
  · exact List.pairwise_mergeSort Segment.precedes_trans Segment.precedes_total _

theorem length_tile_le (left right : Text) (width : Nat) :
    (tile left right width).length ≤ maxSegments := by
  unfold tile
  split
  · exact Nat.zero_le _
  · rw [List.length_mergeSort]
    exact Tiling.length_longest_le _

section Tile

variable {left right : Text} {width : Nat}

theorem width_pos_of_mem_tile {s : Segment} (hs : s ∈ tile left right width) : 0 < width := by
  refine Nat.pos_of_ne_zero ?_
  rintro rfl
  rw [tile, if_pos (Or.inl rfl)] at hs
  cases hs

theorem fits_of_mem_tile {s : Segment} (hs : s ∈ tile left right width) :
    Tiling.Fits (.ofText left) (clampWidth width left right) 0 right s :=
  Tiling.fits_of_mem_greedy ((tile_subperm left right width).subset hs)

/-- Being separate has nothing to do with the order of the segments, so it is inherited. -/
theorem pairwise_separate_tile (hwidth : 1 ≤ width) : (tile left right width).Pairwise fun s t =>
    Separate s.left s.length t.left t.length ∧ Separate s.right s.length t.right t.length := by
  obtain ⟨segments, hperm, hsub⟩ := tile_subperm left right width
  rw [hperm.symm.pairwise_iff fun h => ⟨h.1.symm, h.2.symm⟩]
  exact (Tiling.pairwise_greedy (le_clampWidth hwidth)).sublist hsub

end Tile

/-- Whatever the texts and the width, the segments found are a valid tiling. -/
theorem isTiling_tile (left right : Text) (width : Nat) :
    IsTiling left right (clampWidth width left right) (tile left right width) := by
  by_cases hzero : width = 0
  · have hnil : tile left right width = [] := by rw [tile, if_pos (Or.inl hzero)]
    rw [hnil]
    constructor <;> simp
  have hwidth : 1 ≤ width := by omega
  have hpos (s : Segment) (hs : s ∈ tile left right width) : 0 < s.length :=
    Nat.lt_of_lt_of_le (le_clampWidth hwidth) (fits_of_mem_tile hs).width_le
  have hseparate := @pairwise_separate_tile left right width hwidth
  constructor
  case left_le => exact fun s hs => (fits_of_mem_tile hs).left_le (hpos s hs)
  case right_le => exact fun s hs => (fits_of_mem_tile hs).right_le (hpos s hs)
  case width_le => exact fun s hs => (fits_of_mem_tile hs).width_le
  case same => exact fun s hs => (fits_of_mem_tile hs).take_drop_eq
  case left_separate => exact hseparate.imp And.left
  case right_separate => exact hseparate.imp And.right
  case few => exact length_tile_le left right width
  case ascending =>
    refine ((pairwise_precedes_tile left right width).and hseparate).imp_of_mem ?_
    rintro s t hs ht ⟨hle, hleft, -⟩
    -- two segments that are not empty cannot start at one offset of the left text
    have := Segment.left_le_of_precedes hle
    have := hpos s hs
    have := hpos t ht
    have := hleft t.left
    omega

end SourceSimilarity.Fingerprint
