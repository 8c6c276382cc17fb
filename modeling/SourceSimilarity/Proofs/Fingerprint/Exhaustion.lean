import SourceSimilarity.Proofs.Fingerprint.Match
import SourceSimilarity.Proofs.Fingerprint.Tiling

/-!
# Tilings leave nothing out

The walk meets each window of the right text with the characters covered that belong to segments
which begin further in front. So the segments alone tell what each choice was made from: a segment
is the best run that was left at its place, and where no segment lies, none was left.
-/

namespace SourceSimilarity.Fingerprint

namespace Segment

/-- The character at `i` of the left text belongs to the segment. -/
def CoversLeft (s : Segment) (i : Nat) : Prop :=
  s.left ≤ i ∧ i < s.left + s.length

/-- The character at `i` of the right text belongs to the segment. -/
def CoversRight (s : Segment) (i : Nat) : Prop :=
  s.right ≤ i ∧ i < s.right + s.length

/-- Behind the segment a text ends, or the characters differ, or that of the left text belongs to
one of the segments that begin in front of this one in the right text. -/
def StopsBehind (left right : Text) (segments : List Segment) (s : Segment) : Prop :=
  s.left + s.length = left.length ∨ s.right + s.length = right.length ∨
    left[s.left + s.length]? ≠ right[s.right + s.length]? ∨
    ∃ t ∈ segments, t.right < s.right ∧ t.CoversLeft (s.left + s.length)

/-- The segment is at the front of a text, or the characters in front of it differ, or one of them
belongs to another one of the segments. -/
def StopsInFront (left right : Text) (segments : List Segment) (s : Segment) : Prop :=
  s.left = 0 ∨ s.right = 0 ∨ left[s.left - 1]? ≠ right[s.right - 1]? ∨
    ∃ t ∈ segments, t ≠ s ∧ (t.CoversLeft (s.left - 1) ∨ t.CoversRight (s.right - 1))

end Segment

namespace Tiling

/-! ## The board at an offset -/

/-- Cover the characters of all segments. -/
def Board.coverAll (board : Board) (segments : List Segment) : Board :=
  segments.foldl (fun board s => board.cover s.left s.length) board

theorem Board.free?_coverAll_iff {board : Board} {segments : List Segment} {i : Nat} {c : Char} :
    (board.coverAll segments).free? i = some c ↔
      board.free? i = some c ∧ ∀ s ∈ segments, ¬ s.CoversLeft i := by
  induction segments generalizing board with
  | nil => simp [coverAll]
  | cons s rest ih =>
    show ((board.cover s.left s.length).coverAll rest).free? i = some c ↔ _
    rw [ih, free?_cover_iff, List.forall_mem_cons, and_assoc]
    rfl

/-- The segments that begin in front of an offset of the right text. -/
def startingBefore (segments : List Segment) (offset : Nat) : List Segment :=
  segments.filter fun s => s.right < offset

theorem startingBefore_cons_of_lt {s : Segment} {offset : Nat} (h : s.right < offset)
    (rest : List Segment) :
    startingBefore (s :: rest) offset = s :: startingBefore rest offset :=
  List.filter_cons_of_pos (by simpa using h)

theorem startingBefore_cons_of_le {s : Segment} {offset : Nat} (h : offset ≤ s.right)
    (rest : List Segment) : startingBefore (s :: rest) offset = startingBefore rest offset :=
  List.filter_cons_of_neg (by simpa using h)

section Walk

variable {index : OffsetIndex} {width skip offset : Nat} {board : Board} {hashes : List UInt64}
  {right : Text}

/-- No segment of a walk begins in front of the place where the walk may take one again. -/
theorem startingBefore_walk {place : Nat} (h : place ≤ offset + skip) :
    startingBefore (walk index width board skip offset hashes right) place = [] := by
  rw [startingBefore, List.filter_eq_nil_iff]
  intro s hs
  have hlater := (fits_of_mem_walk hs).2
  simp only [decide_eq_true_eq]
  omega

/-- A segment is the best run on the board that the segments in front of it leave. -/
theorem bestRun_of_mem_walk {s : Segment}
    (hs : s ∈ walk index width board skip offset hashes right) :
    ∃ j hash, s.right = offset + j ∧ hashes[j]? = some hash ∧
      bestRun
        (board.coverAll
          (startingBefore (walk index width board skip offset hashes right) s.right))
        width (index.offsets hash) (right.drop j) = some (s.length, s.left) := by
  fun_induction walk index width board skip offset hashes right with
  | case1 board offset hash hashes c rest skip ih =>
    obtain ⟨j, found, hplace, hfound, hrun⟩ := ih hs
    exact ⟨j + 1, found, by omega, hfound, hrun⟩
  | case2 board offset hash hashes c rest length left hrun ih =>
    rcases List.mem_cons.mp hs with rfl | hs
    · -- nothing is found in front of the first segment
      refine ⟨0, hash, rfl, rfl, ?_⟩
      rw [startingBefore_cons_of_le (Nat.le_refl _), startingBefore_walk (by simp only; omega)]
      exact hrun
    · -- the rest begins on the board with the first segment covered
      have hlater := (fits_of_mem_walk hs).1.offset_le
      obtain ⟨j, found, hplace, hfound, hrun⟩ := ih hs
      refine ⟨j + 1, found, by omega, hfound, ?_⟩
      rw [startingBefore_cons_of_lt (by simp only; omega)]
      exact hrun
  | case3 board offset hash hashes c rest hrun ih =>
    obtain ⟨j, found, hplace, hfound, hrun⟩ := ih hs
    exact ⟨j + 1, found, by omega, hfound, hrun⟩
  | case4 => cases hs

/-- Where no segment lies the walk found no run on the board that the segments in front leave. -/
theorem bestRun_of_passed_walk {j : Nat} {hash : UInt64} (hwidth : 1 ≤ width) (hskip : skip ≤ j)
    (hhash : hashes[j]? = some hash) (hright : j < right.length)
    (hpassed : ∀ s ∈ walk index width board skip offset hashes right,
      ¬ s.CoversRight (offset + j)) :
    bestRun
      (board.coverAll
        (startingBefore (walk index width board skip offset hashes right) (offset + j)))
      width (index.offsets hash) (right.drop j) = none := by
  fun_induction walk index width board skip offset hashes right generalizing j with
  | case1 board offset first hashes c rest skip ih =>
    obtain ⟨j, rfl⟩ := Nat.exists_eq_add_one_of_ne_zero (show j ≠ 0 by omega)
    rw [show offset + (j + 1) = offset + 1 + j by omega] at hpassed ⊢
    exact ih (by omega) hhash (by simpa using hright) hpassed
  | case2 board offset first hashes c rest length left hrun ih =>
    -- the place lies behind the segment taken here, for it does not lie in it
    have hlength := (of_bestRun hrun).2.1
    have hout := hpassed ⟨left, offset, length⟩ List.mem_cons_self
    simp only [Segment.CoversRight] at hout
    obtain ⟨j, rfl⟩ := Nat.exists_eq_add_one_of_ne_zero (show j ≠ 0 by omega)
    rw [show offset + (j + 1) = offset + 1 + j by omega] at hpassed ⊢
    rw [startingBefore_cons_of_lt (by simp only; omega)]
    exact ih (by omega) hhash (by simpa using hright)
      fun s hs => hpassed s (List.mem_cons_of_mem _ hs)
  | case3 board offset first hashes c rest hrun ih =>
    cases j with
    | zero =>
      rw [startingBefore_walk (by omega)]
      simp only [List.getElem?_cons_zero, Option.some.injEq] at hhash
      exact hhash ▸ hrun
    | succ j =>
      rw [show offset + (j + 1) = offset + 1 + j by omega] at hpassed ⊢
      exact ih (Nat.zero_le _) hhash (by simpa using hright) hpassed
  | case4 hashes board skip offset right hnone =>
    cases hashes with
    | nil => simp at hhash
    | cons first hashes =>
      cases right with
      | nil => simp at hright
      | cons c rest => exact absurd rfl (hnone first hashes c rest rfl)

end Walk

/-! ## The greedy tiling -/

section Greedy

variable {left right : Text} {width : Nat}

/-- The left text when the walk gets to an offset of the right text. -/
def boardAt (left right : Text) (width offset : Nat) : Board :=
  (Board.ofText left).coverAll (startingBefore (greedy left right width) offset)

/-- At an offset those characters are free that belong to no segment in front of it. -/
theorem free?_boardAt_iff {offset i : Nat} {c : Char} :
    (boardAt left right width offset).free? i = some c ↔
      left[i]? = some c ∧
        ∀ s ∈ greedy left right width, s.right < offset → ¬ s.CoversLeft i := by
  rw [boardAt, Board.free?_coverAll_iff, Board.free?_ofText]
  simp [startingBefore]

theorem bestRun_of_mem_greedy {s : Segment} (hs : s ∈ greedy left right width) :
    ∃ hash, (hashes right width)[s.right]? = some hash ∧
      bestRun (boardAt left right width s.right) width
        ((OffsetIndex.ofHashes (hashes left width)).offsets hash) (right.drop s.right) =
          some (s.length, s.left) := by
  obtain ⟨j, hash, hplace, hhash, hrun⟩ := bestRun_of_mem_walk hs
  obtain rfl : s.right = j := by omega
  exact ⟨hash, hhash, hrun⟩

theorem bestRun_of_passed {j : Nat} {hash : UInt64} (hwidth : 1 ≤ width)
    (hhash : (hashes right width)[j]? = some hash)
    (hpassed : ∀ s ∈ greedy left right width, ¬ s.CoversRight j) :
    bestRun (boardAt left right width j) width
      ((OffsetIndex.ofHashes (hashes left width)).offsets hash) (right.drop j) = none := by
  have hright := add_le_of_getElem?_hashes hwidth hhash
  have hwalk : ∀ s ∈ walk (.ofHashes (hashes left width)) width (.ofText left) 0 0
      (hashes right width) right, ¬ s.CoversRight (0 + j) := by
    rw [Nat.zero_add]
    exact hpassed
  have hnone := bestRun_of_passed_walk hwidth (Nat.zero_le j) hhash (by omega) hwalk
  rwa [Nat.zero_add] at hnone

/-- On a new board the offsets tried are the first ones of the hash. -/
theorem takeFree_ofHashes (hwidth : 1 ≤ width) (limit : Nat) (hash : UInt64) :
    (Board.ofText left).takeFree limit ((OffsetIndex.ofHashes (hashes left width)).offsets hash) =
      ((OffsetIndex.ofHashes (hashes left width)).offsets hash).take limit := by
  refine Board.takeFree_ofText (fun i hi => ?_) limit
  have := add_le_of_getElem?_hashes hwidth (OffsetIndex.mem_offsets_ofHashes.mp hi)
  omega

/-- The first windows of a segment have one hash. -/
theorem hash_of_mem_greedy {s : Segment} (hs : s ∈ greedy left right width) :
    ∃ hash, (hashes left width)[s.left]? = some hash ∧
      (hashes right width)[s.right]? = some hash := by
  obtain ⟨hash, hhash, hrun⟩ := bestRun_of_mem_greedy hs
  have htried := (of_bestRun hrun).1
  rw [Board.takeFree_eq] at htried
  have hmem := (List.mem_filter.mp (List.mem_of_mem_take htried)).1
  exact ⟨hash, OffsetIndex.mem_offsets_ofHashes.mp hmem, hhash⟩

/-- A hash that stands nowhere too often stands less often in front of any of its places. -/
theorem rank_lt {i limit : Nat} {window : Text}
    (hrare : ∀ hash, (hashes left width).count hash ≤ limit)
    (hwindow : (windows left width)[i]? = some window) :
    ((hashes left width).take i).count (windowHash window) < limit := by
  obtain ⟨hi, hhash⟩ := List.getElem?_eq_some_iff.mp (getElem?_hashes_of_windows hwindow)
  have hsplit : (hashes left width).count (windowHash window) =
      ((hashes left width).take i).count (windowHash window) +
        ((hashes left width).drop i).count (windowHash window) := by
    rw [← List.count_append, List.take_append_drop]
  rw [List.drop_eq_getElem_cons hi, hhash, List.count_cons_self] at hsplit
  have hcount := hrare (windowHash window)
  omega

/-- At an offset a run reaches as far as the texts read the same and no segment in front lies. -/
theorem le_commonRun_boardAt {i j n : Nat} (hi : i + n ≤ left.length)
    (hsame : (left.drop i).take n = (right.drop j).take n)
    (hfree : ∀ s ∈ greedy left right width, s.right < j → ∀ m < n, ¬ s.CoversLeft (i + m)) :
    n ≤ (boardAt left right width j).commonRun i (right.drop j) := by
  rw [Board.le_commonRun_iff]
  intro m hm
  have hin : i + m < left.length := by omega
  refine ⟨left[i + m], ?_, ?_⟩
  · rw [List.getElem?_drop, ← take_drop_eq_iff.mp hsame m hm, List.getElem?_eq_getElem hin]
  · rw [free?_boardAt_iff]
    exact ⟨List.getElem?_eq_getElem hin, fun s hs hearlier => hfree s hs hearlier m hm⟩

/-- Where a shared window is passed, the segments in front have taken a part of it, provided that it
does not stand behind too many other windows with its hash. -/
theorem exists_earlier_of_shared {i j : Nat} {window : Text} (hwidth : 1 ≤ width)
    (hleft : (windows left width)[i]? = some window)
    (hright : (windows right width)[j]? = some window)
    (hrank : ((hashes left width).take i).count (windowHash window) < maxCandidates)
    (hpassed : ∀ s ∈ greedy left right width, ¬ s.CoversRight j) :
    ∃ s ∈ greedy left right width, s.right < j ∧ ∃ n < width, s.CoversLeft (i + n) := by
  have hnone := bestRun_eq_none_iff.mp
    (bestRun_of_passed hwidth (getElem?_hashes_of_windows hright) hpassed)
  obtain ⟨hi, hstretch⟩ := (getElem?_windows_eq_some_iff hwidth).mp hleft
  have hsame := hstretch.trans ((getElem?_windows_eq_some_iff hwidth).mp hright).2.symm
  by_contra hfree
  push Not at hfree
  -- otherwise the whole window is free, so it is tried and is long enough
  have hrun := le_commonRun_boardAt hi hsame hfree
  have htried : i ∈ (boardAt left right width j).takeFree maxCandidates
      ((OffsetIndex.ofHashes (hashes left width)).offsets (windowHash window)) := by
    obtain ⟨c, -, hc⟩ := (Board.le_commonRun_iff _).mp hrun 0 hwidth
    exact Board.mem_takeFree_of_mem_take _
      (OffsetIndex.mem_take_offsets_ofHashes.mpr ⟨getElem?_hashes_of_windows hleft, hrank⟩)
      (Board.free?_eq_some_iff.mp hc).1
  exact absurd (hnone i htried) (Nat.not_lt.mpr hrun)

/-- What a segment shows was free when the walk got to it. -/
theorem not_coversLeft_of_earlier {s t : Segment} (hs : s ∈ greedy left right width)
    (ht : t ∈ greedy left right width) (hearlier : t.right < s.right) {n : Nat}
    (hn : n < s.length) : ¬ t.CoversLeft (s.left + n) := by
  obtain ⟨hash, -, hrun⟩ := bestRun_of_mem_greedy hs
  have hlength := (of_bestRun hrun).2.2
  obtain ⟨c, -, hfree⟩ := Board.of_lt_commonRun _ (hlength ▸ hn)
  exact (free?_boardAt_iff.mp hfree).2 t ht hearlier

/-- A segment goes on as far as the texts agree, unless it comes to a segment in front of it. -/
theorem stopsBehind_of_mem_greedy {s : Segment} (hwidth : 1 ≤ width)
    (hs : s ∈ greedy left right width) : s.StopsBehind left right (greedy left right width) := by
  have hfits := fits_of_mem_greedy hs
  have hpos : 0 < s.length := Nat.lt_of_lt_of_le hwidth hfits.width_le
  have hle := hfits.left_le hpos
  obtain ⟨hash, -, hrun⟩ := bestRun_of_mem_greedy hs
  have hlength := (of_bestRun hrun).2.2
  unfold Segment.StopsBehind
  by_contra hgoes
  push Not at hgoes
  obtain ⟨hleft, -, hsame, hfree⟩ := hgoes
  -- then the run that was taken would be longer by one character
  have hlonger : s.length + 1 ≤
      (boardAt left right width s.right).commonRun s.left (right.drop s.right) := by
    rw [Board.le_commonRun_iff]
    intro n hn
    by_cases hlast : n = s.length
    · have hin : s.left + s.length < left.length := by omega
      refine ⟨left[s.left + s.length], ?_, ?_⟩
      · rw [hlast, List.getElem?_drop, ← hsame, List.getElem?_eq_getElem hin]
      · rw [hlast, free?_boardAt_iff]
        exact ⟨List.getElem?_eq_getElem hin, hfree⟩
    · exact Board.of_lt_commonRun _ (by omega)
  omega

/-- If the characters in front of a segment agree and no segment shows that of the right text, the
walk passed the run that begins with them, for one in front had taken the character on the left. -/
theorem exists_coversLeft_in_front {s : Segment} (hwidth : 1 ≤ width)
    (hrare : ∀ hash, (hashes left width).count hash ≤ maxCandidates)
    (hs : s ∈ greedy left right width) (hleft : s.left ≠ 0) (hright : s.right ≠ 0)
    (hsame : left[s.left - 1]? = right[s.right - 1]?)
    (hpassed : ∀ t ∈ greedy left right width, ¬ t.CoversRight (s.right - 1)) :
    ∃ t ∈ greedy left right width, t.right < s.right ∧ t.CoversLeft (s.left - 1) := by
  have hfits := fits_of_mem_greedy hs
  have hlength := hfits.width_le
  have hle := hfits.left_le (Nat.lt_of_lt_of_le hwidth hlength)
  have hle' := hfits.right_le (Nat.lt_of_lt_of_le hwidth hlength)
  have hfirst := (getElem?_windows_eq_some_iff hwidth).mpr
    ⟨by omega, hfits.take_drop_pred_eq hleft hright hsame (Nat.le_succ_of_le hlength)⟩
  have hsecond : (windows right width)[s.right - 1]? =
      some ((right.drop (s.right - 1)).take width) :=
    (getElem?_windows_eq_some_iff hwidth).mpr ⟨by omega, rfl⟩
  obtain ⟨t, ht, hearlier, n, hn, hcovers⟩ :=
    exists_earlier_of_shared hwidth hfirst hsecond (rank_lt hrare hfirst) hpassed
  refine ⟨t, ht, by omega, ?_⟩
  cases n with
  | zero => exact hcovers
  | succ n =>
    -- the rest of the window is in the segment itself
    rw [show s.left - 1 + (n + 1) = s.left + n by omega] at hcovers
    exact absurd hcovers (not_coversLeft_of_earlier hs ht (by omega) (by omega))

/-- A segment does not begin behind characters that the texts share, unless another segment shows
one of them. -/
theorem stopsInFront_of_mem_greedy {s : Segment} (hwidth : 1 ≤ width)
    (hrare : ∀ hash, (hashes left width).count hash ≤ maxCandidates)
    (hs : s ∈ greedy left right width) : s.StopsInFront left right (greedy left right width) := by
  unfold Segment.StopsInFront
  by_cases hleft : s.left = 0
  · exact .inl hleft
  by_cases hright : s.right = 0
  · exact .inr (.inl hright)
  by_cases hsame : left[s.left - 1]? = right[s.right - 1]?
  swap
  · exact .inr (.inr (.inl hsame))
  refine .inr (.inr (.inr ?_))
  by_cases hpassed : ∀ t ∈ greedy left right width, ¬ t.CoversRight (s.right - 1)
  · obtain ⟨t, ht, hearlier, hcovers⟩ :=
      exists_coversLeft_in_front hwidth hrare hs hleft hright hsame hpassed
    refine ⟨t, ht, ?_, .inl hcovers⟩
    rintro rfl
    exact absurd hearlier (Nat.lt_irrefl _)
  · push Not at hpassed
    obtain ⟨t, ht, hcovers⟩ := hpassed
    refine ⟨t, ht, ?_, .inr hcovers⟩
    rintro rfl
    have := hcovers.1
    omega

end Greedy

/-- A tiling that is not too long is not cut down. -/
theorem longest_of_length_lt {segments : List Segment}
    (h : (longest segments).length < maxSegments) : longest segments = segments := by
  rw [length_longest] at h
  unfold longest
  exact if_neg (by omega)

end Tiling

/-! ## The tiling -/

section Tile

open Tiling

variable {left right : Text} {width : Nat}

/-- With an empty text, or without a width, nothing is found. -/
theorem greedy_eq_nil_of_unmatched (h : width = 0 ∨ left.isEmpty ∨ right.isEmpty) :
    greedy left right (clampWidth width left right) = [] := by
  refine List.eq_nil_iff_forall_not_mem.mpr fun s hs => ?_
  obtain ⟨hash, hleft, hright⟩ := hash_of_mem_greedy hs
  rcases hashes_eq_nil_of_unmatched h with hnil | hnil
  · simp [hnil] at hleft
  · simp [hnil] at hright

theorem tile_eq_mergeSort_longest (left right : Text) (width : Nat) :
    tile left right width =
      (longest (greedy left right (clampWidth width left right))).mergeSort Segment.precedes := by
  unfold tile
  split
  · rename_i hnone
    rw [greedy_eq_nil_of_unmatched hnone]
    simp [longest]
  · rfl

/-- Below the limit a tiling has all segments of the greedy tiling. -/
theorem tile_perm_greedy (h : (tile left right width).length < maxSegments) :
    (tile left right width).Perm (greedy left right (clampWidth width left right)) := by
  rw [tile_eq_mergeSort_longest] at h ⊢
  rw [List.length_mergeSort] at h
  exact (List.mergeSort_perm _ _).trans (by rw [longest_of_length_lt h])

/-- The segment found last begins between the other two in the left text. -/
theorem tile_interleaved :
    tile ['a', 'b', 'c'] ['a', 'c', 'a', 'b', 'c'] 1 = [⟨0, 0, 1⟩, ⟨1, 3, 1⟩, ⟨2, 1, 1⟩] := by
  have hleft : hashes ['a', 'b', 'c'] 1 = [97, 98, 99] := by decide
  have hright : hashes ['a', 'c', 'a', 'b', 'c'] 1 = [97, 99, 97, 98, 99] := by decide
  have hgreedy : greedy ['a', 'b', 'c'] ['a', 'c', 'a', 'b', 'c'] 1 =
      [⟨0, 0, 1⟩, ⟨2, 1, 1⟩, ⟨1, 3, 1⟩] := by
    simp [greedy, hleft, hright, walk, bestRun, maxCandidates,
      OffsetIndex.ofHashes, OffsetIndex.offsets_ofHashesFrom_cons, Board.ofText,
      Board.takeFree, Board.commonRun, Board.free?, Board.cover]
  simp [tile, clampWidth, hgreedy, longest, maxSegments, List.mergeSort, Segment.precedes]

theorem count_hashes_interleaved (hash : UInt64) :
    (hashes ['a', 'b', 'c'] 1).count hash ≤ 64 := by
  have hlength : (hashes ['a', 'b', 'c'] 1).length = 3 := by decide
  exact Nat.le_trans List.count_le_length (by rw [hlength]; decide)

/-- Whatever window two texts share, a segment of their tiling shows a character of it, on the left
or on the right. -/
theorem exists_covers_of_shared {i j : Nat} (hwidth : 1 ≤ width)
    (hrare : ∀ hash, (hashes left (clampWidth width left right)).count hash ≤ 64)
    (hfew : (tile left right width).length < 256)
    (hi : i + clampWidth width left right ≤ left.length)
    (hj : j + clampWidth width left right ≤ right.length)
    (hsame : (left.drop i).take (clampWidth width left right) =
      (right.drop j).take (clampWidth width left right)) :
    ∃ s ∈ tile left right width, ∃ n < clampWidth width left right,
      s.CoversLeft (i + n) ∨ s.CoversRight (j + n) := by
  have hclamped : 1 ≤ clampWidth width left right := le_clampWidth hwidth
  have hmem (s : Segment) := (tile_perm_greedy hfew).mem_iff (a := s)
  by_cases hpassed : ∀ s ∈ greedy left right (clampWidth width left right), ¬ s.CoversRight j
  · have hleft := (getElem?_windows_eq_some_iff hclamped).mpr ⟨hi, hsame⟩
    have hright := (getElem?_windows_eq_some_iff hclamped).mpr ⟨hj, rfl⟩
    obtain ⟨s, hs, -, n, hn, hcovers⟩ :=
      exists_earlier_of_shared hclamped hleft hright (rank_lt hrare hleft) hpassed
    exact ⟨s, (hmem s).mpr hs, n, hn, .inl hcovers⟩
  · push Not at hpassed
    obtain ⟨s, hs, hcovers⟩ := hpassed
    exact ⟨s, (hmem s).mpr hs, 0, hclamped, .inr hcovers⟩

/-- The later `a` of the right text is in no segment: the one of the left text is taken already. -/
theorem exists_covers_of_shared_taken :
    1 ≤ 1 ∧ (∀ hash, (hashes ['a', 'b', 'c'] 1).count hash ≤ 64) ∧
      (tile ['a', 'b', 'c'] ['a', 'c', 'a', 'b', 'c'] 1).length < 256 ∧
      (['a', 'b', 'c'].drop 0).take 1 = (['a', 'c', 'a', 'b', 'c'].drop 2).take 1 ∧
      ∃ s ∈ tile ['a', 'b', 'c'] ['a', 'c', 'a', 'b', 'c'] 1, ∃ n < 1,
        s.CoversLeft (0 + n) ∨ s.CoversRight (2 + n) := by
  have hfew : (tile ['a', 'b', 'c'] ['a', 'c', 'a', 'b', 'c'] 1).length < 256 := by
    rw [tile_interleaved]
    decide
  exact ⟨Nat.le_refl 1, count_hashes_interleaved, hfew, by decide,
    exists_covers_of_shared (by decide) count_hashes_interleaved hfew (by decide) (by decide)
      (by decide)⟩

/-- A segment of a tiling could not be longer: behind it and in front of it the texts end or differ,
or another segment shows the characters there. -/
theorem stops_of_mem_tile {s : Segment} (hfew : (tile left right width).length < 256)
    (hs : s ∈ tile left right width) :
    s.StopsBehind left right (tile left right width) ∧
      ((∀ hash, (hashes left (clampWidth width left right)).count hash ≤ 64) →
        s.StopsInFront left right (tile left right width)) := by
  have hwidth : 1 ≤ clampWidth width left right := le_clampWidth (width_pos_of_mem_tile hs)
  have hmem (t : Segment) := (tile_perm_greedy hfew).mem_iff (a := t)
  rw [hmem] at hs
  constructor
  · simpa only [Segment.StopsBehind, hmem] using stopsBehind_of_mem_greedy hwidth hs
  · intro hrare
    simpa only [Segment.StopsInFront, hmem] using stopsInFront_of_mem_greedy hwidth hrare hs

/-- The segment of the `b` is shut in by those of the `a` and of the `c`. -/
theorem stops_of_mem_tile_interleaved :
    (tile ['a', 'b', 'c'] ['a', 'c', 'a', 'b', 'c'] 1).length < 256 ∧
      ⟨1, 3, 1⟩ ∈ tile ['a', 'b', 'c'] ['a', 'c', 'a', 'b', 'c'] 1 ∧
      (∀ hash, (hashes ['a', 'b', 'c'] 1).count hash ≤ 64) ∧
      (⟨1, 3, 1⟩ : Segment).StopsBehind ['a', 'b', 'c'] ['a', 'c', 'a', 'b', 'c']
        [⟨0, 0, 1⟩, ⟨1, 3, 1⟩, ⟨2, 1, 1⟩] ∧
      (⟨1, 3, 1⟩ : Segment).StopsInFront ['a', 'b', 'c'] ['a', 'c', 'a', 'b', 'c']
        [⟨0, 0, 1⟩, ⟨1, 3, 1⟩, ⟨2, 1, 1⟩] := by
  have hfew : (tile ['a', 'b', 'c'] ['a', 'c', 'a', 'b', 'c'] 1).length < 256 := by
    rw [tile_interleaved]
    decide
  have hmem : ⟨1, 3, 1⟩ ∈ tile ['a', 'b', 'c'] ['a', 'c', 'a', 'b', 'c'] 1 := by
    rw [tile_interleaved]
    decide
  have hstops := stops_of_mem_tile hfew hmem
  rw [← tile_interleaved]
  exact ⟨hfew, hmem, count_hashes_interleaved, hstops.1, hstops.2 count_hashes_interleaved⟩

end Tile

end SourceSimilarity.Fingerprint
