import Mathlib.Data.List.Sort
import SourceSimilarity.Proofs.Fingerprint.Join
import SourceSimilarity.Proofs.Fingerprint.Segment

/-!
# Segments decompose matches

The segments of a list of matches are its maximal diagonal runs. Taken apart into windows they give
every match of the list once and nothing else. A set of matches can be decomposed like this in one
way only, so neither the order of the matches nor their repetition shows in the segments.
-/

namespace SourceSimilarity.Fingerprint

/-! ## Segments taken apart -/

namespace Segment

variable {s : Segment} {width : Nat} {m : Match}

/-- The places at which the windows of `width` characters of a segment begin. -/
def windowPlaces (width : Nat) (s : Segment) : List Match :=
  (List.range (s.length + 1 - width)).map s.start.along

theorem mem_windowPlaces : m ∈ s.windowPlaces width ↔ s.HasWindow width m := by
  simp only [windowPlaces, List.mem_map, List.mem_range, HasWindow]
  constructor
  · rintro ⟨j, hj, rfl⟩
    exact ⟨j, by omega, rfl⟩
  · rintro ⟨j, hj, rfl⟩
    exact ⟨j, by omega, rfl⟩

theorem nodup_windowPlaces : (s.windowPlaces width).Nodup :=
  List.nodup_range.map s.start.along_injective

/-- Being a maximal run is a matter of the set of matches. -/
theorem IsMaximalRun.congr {found found' : List Match} (hs : s.IsMaximalRun found width)
    (h : ∀ m, m ∈ found' ↔ m ∈ found) : s.IsMaximalRun found' width where
  width_le := hs.width_le
  windows m hm := (h m).mpr (hs.windows m hm)
  before m hm := hs.before m ((h m).mp hm)
  after := mt (h _).mp hs.after

/-- A segment ends where the window of its last match ends. -/
theorem IsMaximalRun.exists_last {found : List Match} (hs : s.IsMaximalRun found width) :
    ∃ m ∈ found, s.left + s.length = m.left + width ∧ s.right + s.length = m.right + width := by
  have hlength := hs.width_le
  have hlast : s.HasWindow width (s.start.along (s.length - width)) :=
    ⟨s.length - width, by omega, rfl⟩
  refine ⟨_, hs.windows _ hlast, ?_⟩
  simp only [Match.along, Segment.start]
  omega

instance (found : List Match) (width : Nat) (s : Segment) :
    Decidable (s.IsMaximalRun found width) :=
  decidable_of_iff
    (width ≤ s.length ∧ (∀ m ∈ s.windowPlaces width, m ∈ found) ∧
      (∀ m ∈ found, m.next ≠ s.start) ∧ s.start.along (s.length - width + 1) ∉ found)
    ⟨fun ⟨hwidth, hwindows, hbefore, hafter⟩ =>
      ⟨hwidth, fun m hm => hwindows m (mem_windowPlaces.mpr hm), hbefore, hafter⟩,
    fun h => ⟨h.width_le, fun m hm => h.windows m (mem_windowPlaces.mp hm), h.before, h.after⟩⟩

end Segment

/-! ## Decompositions -/

/-- The segments are maximal runs of the matches, in whose windows every match is found once and
nothing else, and they are ascending. -/
structure Decomposes (segments : List Segment) (found : List Match) (width : Nat) : Prop where
  maximal : ∀ s ∈ segments, s.IsMaximalRun found width
  places_perm : (segments.flatMap (Segment.windowPlaces width)).Perm found.dedup
  ascending : segments.Pairwise fun s t => s.start.Before t.start

instance (a b : Match) : Decidable (a.Before b) :=
  inferInstanceAs (Decidable (_ ∨ _))

instance (segments : List Segment) (found : List Match) (width : Nat) :
    Decidable (Decomposes segments found width) :=
  decidable_of_iff
    ((∀ s ∈ segments, s.IsMaximalRun found width) ∧
      (segments.flatMap (Segment.windowPlaces width)).Perm found.dedup ∧
      segments.Pairwise fun s t => s.start.Before t.start)
    ⟨fun ⟨hmaximal, hperm, hascending⟩ => ⟨hmaximal, hperm, hascending⟩,
    fun h => ⟨h.maximal, h.places_perm, h.ascending⟩⟩

section Decomposes

variable {segments segments' : List Segment} {found found' : List Match} {width : Nat}

/-- All maximal runs are segments of a decomposition, because their first windows are matches. -/
theorem Decomposes.mem_iff (h : Decomposes segments found width) {s : Segment} :
    s ∈ segments ↔ s.IsMaximalRun found width := by
  constructor
  · exact h.maximal s
  · intro hs
    have hwindow := Segment.hasWindow_start hs.width_le
    have hstart : s.start ∈ segments.flatMap (Segment.windowPlaces width) :=
      h.places_perm.mem_iff.mpr (List.mem_dedup.mpr (hs.windows _ hwindow))
    obtain ⟨t, ht, hplace⟩ := List.mem_flatMap.mp hstart
    obtain rfl := (h.maximal t ht).eq_of_hasWindow hs (Segment.mem_windowPlaces.mp hplace) hwindow
    exact ht

/-- There is one decomposition of a set of matches. -/
theorem Decomposes.eq (h : Decomposes segments found width) (h' : Decomposes segments' found' width)
    (hfound : ∀ m, m ∈ found' ↔ m ∈ found) : segments' = segments := by
  have hirrefl : Std.Irrefl fun s t : Segment => s.start.Before t.start :=
    ⟨fun s => Std.Irrefl.irrefl s.start⟩
  have hantisymm : Std.Antisymm fun s t : Segment => s.start.Before t.start := by
    refine ⟨fun s t hst hts => ?_⟩
    simp only [Match.Before] at hst hts
    omega
  refine h'.ascending.eq_of_mem_iff h.ascending fun s => ?_
  rw [h'.mem_iff, h.mem_iff]
  exact ⟨fun hs => hs.congr fun m => (hfound m).symm, fun hs => hs.congr hfound⟩

end Decomposes

/-! ## The segments of a list of matches -/

theorem pairwise_diagonalSegments (found : List Match) (width : Nat) :
    (diagonalSegments found width).Pairwise fun s t => s.start.Before t.start := by
  unfold diagonalSegments
  split
  · exact .nil
  · rw [List.pairwise_map]
    exact Match.pairwise_before_mergeSort ((nodup_toList (Std.HashSet.ofList found)).filter
      (Match.startsRun (Std.HashSet.ofList found)))

section Diagonal

variable {width : Nat} (hwidth : 0 < width)
include hwidth

theorem decomposes_diagonalSegments (found : List Match) :
    Decomposes (diagonalSegments found width) found width := by
  have hmaximal (s : Segment) (hs : s ∈ diagonalSegments found width) :
      s.IsMaximalRun found width := (mem_diagonalSegments_iff hwidth).mp hs
  have hascending := pairwise_diagonalSegments found width
  -- two runs that have a window in common are one, and no segment comes before itself
  have hnodup : ((diagonalSegments found width).flatMap (Segment.windowPlaces width)).Nodup := by
    refine List.nodup_flatMap.mpr ⟨fun s _ => Segment.nodup_windowPlaces, ?_⟩
    refine hascending.imp_of_mem fun {s t} hs ht hbefore m hms hmt => ?_
    obtain rfl := (hmaximal s hs).eq_of_hasWindow (hmaximal t ht) (Segment.mem_windowPlaces.mp hms)
      (Segment.mem_windowPlaces.mp hmt)
    exact Std.Irrefl.irrefl _ hbefore
  refine ⟨hmaximal, ?_, hascending⟩
  rw [List.perm_ext_iff_of_nodup hnodup (List.nodup_dedup found)]
  intro m
  rw [List.mem_flatMap, List.mem_dedup]
  constructor
  · rintro ⟨s, hs, hm⟩
    exact (hmaximal s hs).windows m (Segment.mem_windowPlaces.mp hm)
  · intro hm
    obtain ⟨s, hs, hwindow⟩ := exists_isMaximalRun hwidth hm
    exact ⟨s, (mem_diagonalSegments_iff hwidth).mpr hs, Segment.mem_windowPlaces.mpr hwindow⟩

theorem eq_diagonalSegments_iff {found : List Match} {segments : List Segment} :
    segments = diagonalSegments found width ↔ Decomposes segments found width := by
  constructor
  · rintro rfl
    exact decomposes_diagonalSegments hwidth found
  · intro h
    exact (decomposes_diagonalSegments hwidth found).eq h fun _ => Iff.rfl

end Diagonal

/-- The segments of a list of matches are the one decomposition of it into maximal runs. They are
the same for every list with these matches, and those of the matches of two texts lie in both. No
end of a segment leaves a range, such as that of machine words, that has room for each match with
the width added. -/
theorem diagonalSegments_decompose {width : Nat} (hwidth : 0 < width) :
    (∀ (found : List Match) (segments : List Segment),
      segments = diagonalSegments found width ↔ Decomposes segments found width) ∧
    (∀ found found' : List Match, (∀ m, m ∈ found' ↔ m ∈ found) →
      diagonalSegments found' width = diagonalSegments found width) ∧
    (∀ left right : Text, ∀ s ∈ diagonalSegments
        (findMatches left right (clampWidth width left right)) (clampWidth width left right),
      s.left + s.length ≤ left.length ∧ s.right + s.length ≤ right.length) ∧
    ∀ (found : List Match) (limit : Nat),
      (∀ m ∈ found, m.left + width < limit ∧ m.right + width < limit) →
      ∀ s ∈ diagonalSegments found width,
        s.left + s.length < limit ∧ s.right + s.length < limit := by
  refine ⟨fun found segments => eq_diagonalSegments_iff hwidth, fun found found' hfound => ?_,
    fun left right s hs => ?_, fun found limit hfound s hs => ?_⟩
  · exact (decomposes_diagonalSegments hwidth found).eq
      (decomposes_diagonalSegments hwidth found') hfound
  · have hclamped : 0 < clampWidth width left right := le_clampWidth hwidth
    obtain ⟨m, hm, hleft, hright⟩ := ((mem_diagonalSegments_iff hclamped).mp hs).exists_last
    obtain ⟨hash, hhash, hhash'⟩ := mem_findMatches.mp (mem_findMatches_clampWidth.mp hm)
    rw [hleft, hright]
    exact ⟨add_le_of_getElem?_hashes hclamped hhash, add_le_of_getElem?_hashes hclamped hhash'⟩
  · obtain ⟨m, hm, hleft, hright⟩ := ((mem_diagonalSegments_iff hwidth).mp hs).exists_last
    rw [hleft, hright]
    exact hfound m hm

/-- Two runs on neighbouring diagonals, given out of order and with repetitions. -/
theorem diagonalSegments_decompose_neighbours :
    0 < 2 ∧ diagonalSegments [⟨1, 1⟩, ⟨0, 1⟩, ⟨0, 0⟩, ⟨1, 1⟩] 2 = [⟨0, 0, 3⟩, ⟨0, 1, 2⟩] ∧
      diagonalSegments [⟨0, 0⟩, ⟨0, 1⟩, ⟨1, 1⟩] 2 = [⟨0, 0, 3⟩, ⟨0, 1, 2⟩] ∧
      (∀ s ∈ diagonalSegments (findMatches "aab".toList "aaab".toList 2) 2,
        s.left + s.length ≤ 3 ∧ s.right + s.length ≤ 4) ∧
      ∀ s ∈ diagonalSegments [⟨0, 0⟩, ⟨0, 1⟩, ⟨1, 1⟩] 2,
        s.left + s.length < 4 ∧ s.right + s.length < 4 := by
  obtain ⟨hiff, hsame, hinside, hrange⟩ := diagonalSegments_decompose (show 0 < 2 by decide)
  have hsegments : [⟨0, 0, 3⟩, ⟨0, 1, 2⟩] =
      diagonalSegments [⟨1, 1⟩, ⟨0, 1⟩, ⟨0, 0⟩, ⟨1, 1⟩] 2 := (hiff _ _).mpr (by decide)
  have hset : ∀ m : Match, m ∈ [⟨0, 0⟩, ⟨0, 1⟩, ⟨1, 1⟩] ↔
      m ∈ [⟨1, 1⟩, ⟨0, 1⟩, ⟨0, 0⟩, ⟨1, 1⟩] := by
    intro m
    simp only [List.mem_cons, List.not_mem_nil, or_false]
    tauto
  exact ⟨by decide, hsegments.symm, (hsame _ _ hset).trans hsegments.symm,
    hinside "aab".toList "aaab".toList, hrange _ 4 (by decide)⟩

end SourceSimilarity.Fingerprint
