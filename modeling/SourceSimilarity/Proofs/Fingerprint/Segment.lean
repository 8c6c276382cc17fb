import Mathlib.Data.List.Perm.Subperm
import SourceSimilarity.Fingerprint.Segment
import SourceSimilarity.Proofs.Fingerprint.Overlap

/-!
# Segments are maximal runs

A segment that is made of matches is a run of them along a diagonal which goes on neither in front
nor behind. Every match is in exactly one of these runs, and a stretch all of whose windows match
lies inside the run that its first window is in.
-/

namespace SourceSimilarity.Fingerprint

namespace Match

/-- The match that comes `j` steps later along the diagonal. -/
def along (m : Match) (j : Nat) : Match :=
  ⟨m.left + j, m.right + j⟩

theorem along_along (m : Match) (i j : Nat) : (m.along i).along j = m.along (i + j) := by
  simp only [along, Nat.add_assoc]

theorem next_along (m : Match) (j : Nat) : m.next.along j = m.along (j + 1) := by
  simp only [along, next, Nat.add_assoc, Nat.add_comm 1]

theorem along_injective (m : Match) : Function.Injective m.along := by
  intro i j h
  have := congrArg left h
  simp only [along] at this
  omega

/-! ## Runs -/

section Run

variable {matchSet : Std.HashSet Match} {limit : Nat} {m : Match}

theorem runLength_le : runLength matchSet limit m ≤ limit := by
  induction limit generalizing m with
  | zero => exact Nat.le_refl _
  | succ limit ih =>
    unfold runLength
    split
    · exact Nat.succ_le_succ ih
    · exact Nat.zero_le _

theorem contains_of_lt_runLength {j : Nat} (h : j < runLength matchSet limit m) :
    matchSet.contains (m.along j) := by
  induction limit generalizing m j with
  | zero => exact absurd h (Nat.not_lt_zero j)
  | succ limit ih =>
    unfold runLength at h
    split at h
    · rename_i hfirst
      cases j with
      | zero => exact hfirst
      | succ j =>
        rw [← next_along]
        exact ih (Nat.lt_of_succ_lt_succ h)
    · exact absurd h (Nat.not_lt_zero j)

/-- A run that stops before the limit stops where there is no match. -/
theorem not_contains_of_runLength_lt (h : runLength matchSet limit m < limit) :
    ¬ matchSet.contains (m.along (runLength matchSet limit m)) := by
  induction limit generalizing m with
  | zero => exact absurd h (Nat.not_lt_zero _)
  | succ limit ih =>
    unfold runLength at h ⊢
    split at h
    · rename_i hfirst
      rw [if_pos hfirst, ← next_along]
      exact ih (Nat.lt_of_succ_lt_succ h)
    · rename_i hfirst
      rw [if_neg hfirst]
      exact hfirst

/-- There are not enough matches for a run to go on behind as many as there are. -/
theorem not_contains_along_runLength (matchSet : Std.HashSet Match) (m : Match) :
    ¬ matchSet.contains (m.along (runLength matchSet matchSet.size m)) := by
  have hle : runLength matchSet matchSet.size m ≤ matchSet.size := runLength_le
  rcases Nat.lt_or_eq_of_le hle with hlt | heq
  · exact not_contains_of_runLength_lt hlt
  · intro hnext
    have hsubset : (List.range (matchSet.size + 1)).map m.along ⊆ matchSet.toList := by
      intro found hfound
      obtain ⟨j, hj, rfl⟩ := List.mem_map.mp hfound
      rw [Std.HashSet.mem_toList, ← Std.HashSet.contains_iff_mem]
      rcases Nat.lt_or_eq_of_le (Nat.le_of_lt_succ (List.mem_range.mp hj)) with hlt | rfl
      · exact contains_of_lt_runLength (heq ▸ hlt)
      · rwa [heq] at hnext
    have hnodup : ((List.range (matchSet.size + 1)).map m.along).Nodup :=
      List.nodup_range.map m.along_injective
    have hlength := (List.subperm_of_subset hnodup hsubset).length_le
    rw [List.length_map, List.length_range, Std.HashSet.length_toList] at hlength
    omega

end Run

/-- A run starts at a match unless another match comes right before it. -/
theorem startsRun_iff {found : List Match} {m : Match} :
    startsRun (Std.HashSet.ofList found) m ↔ ∀ earlier ∈ found, earlier.next ≠ m := by
  simp only [startsRun, Bool.or_eq_true, beq_iff_eq, Bool.not_eq_true', Std.HashSet.contains_ofList,
    List.contains_eq_mem, decide_eq_false_iff_not]
  constructor
  · rintro h earlier hearlier rfl
    rcases h with (h | h) | h
    · exact absurd h (Nat.succ_ne_zero _)
    · exact absurd h (Nat.succ_ne_zero _)
    · exact h hearlier
  · intro h
    rcases m with ⟨_ | left, _ | right⟩
    · exact .inl (.inl rfl)
    · exact .inl (.inl rfl)
    · exact .inl (.inr rfl)
    · exact .inr fun hearlier => h ⟨left, right⟩ hearlier rfl

/-- Going back along the diagonal from a match leads to the first match of its run. -/
theorem exists_first {found : List Match} {m : Match} (hm : m ∈ found) :
    ∃ first ∈ found, (∀ earlier ∈ found, earlier.next ≠ first) ∧
      ∃ j, m = first.along j ∧ ∀ i ≤ j, first.along i ∈ found := by
  induction hn : m.left using Nat.strongRecOn generalizing m with
  | ind n ih =>
    by_cases hearlier : ∃ earlier ∈ found, earlier.next = m
    · obtain ⟨earlier, hmem, rfl⟩ := hearlier
      obtain ⟨first, hfirst, hbefore, j, rfl, hrun⟩ := ih _ (hn ▸ Nat.lt_succ_self _) hmem rfl
      refine ⟨first, hfirst, hbefore, j + 1, rfl, fun i hi => ?_⟩
      rcases Nat.lt_or_eq_of_le hi with hlt | rfl
      · exact hrun i (Nat.le_of_lt_succ hlt)
      · exact hm
    · refine ⟨m, hm, fun earlier hmem heq => hearlier ⟨earlier, hmem, heq⟩, 0, rfl, fun i hi => ?_⟩
      obtain rfl := Nat.le_zero.mp hi
      exact hm

end Match

/-! ## Segments -/

namespace Segment

/-- The places at which a segment begins. -/
def start (s : Segment) : Match :=
  ⟨s.left, s.right⟩

/-- A window of `width` characters of the segment begins at `m`. -/
def HasWindow (s : Segment) (width : Nat) (m : Match) : Prop :=
  ∃ j, j + width ≤ s.length ∧ m = s.start.along j

/-- The segment lies inside another one, on the same diagonal. -/
def Within (s t : Segment) : Prop :=
  ∃ j, s.start = t.start.along j ∧ j + s.length ≤ t.length

/-- The windows of a segment are matches, and the matches go on neither in front nor behind. -/
structure IsMaximalRun (found : List Match) (width : Nat) (s : Segment) : Prop where
  width_le : width ≤ s.length
  windows : ∀ m, s.HasWindow width m → m ∈ found
  before : ∀ m ∈ found, m.next ≠ s.start
  after : s.start.along (s.length - width + 1) ∉ found

section MaximalRun

variable {found : List Match} {width : Nat} {s t : Segment}

theorem hasWindow_start (h : width ≤ s.length) : s.HasWindow width s.start :=
  ⟨0, by omega, rfl⟩

/-- A run does not go on behind another one that starts where it does. -/
theorem IsMaximalRun.length_le (hs : s.IsMaximalRun found width) (ht : t.IsMaximalRun found width)
    (h : s.start = t.start) : s.length ≤ t.length := by
  have := hs.width_le
  have := ht.width_le
  by_contra hlt
  exact ht.after (hs.windows _ ⟨t.length - width + 1, by omega, h ▸ rfl⟩)

theorem IsMaximalRun.eq_of_start_eq (hs : s.IsMaximalRun found width)
    (ht : t.IsMaximalRun found width) (h : s.start = t.start) : s = t := by
  have hlength := Nat.le_antisymm (hs.length_le ht h) (ht.length_le hs h.symm)
  obtain ⟨left, right, length⟩ := s
  obtain ⟨left', right', length'⟩ := t
  cases h
  cases hlength
  rfl

/-- A run that has a window of another one does not start behind it. -/
theorem IsMaximalRun.le_of_along_eq (hs : s.IsMaximalRun found width)
    (ht : t.IsMaximalRun found width) {i j : Nat} (hj : j + width ≤ t.length)
    (h : s.start.along i = t.start.along j) : j ≤ i := by
  by_contra hlt
  have hstart : s.start = (t.start.along (j - i - 1)).next := by
    simp only [start, Match.along, Match.next, Match.mk.injEq] at h ⊢
    omega
  exact hs.before _ (ht.windows _ ⟨j - i - 1, by omega, rfl⟩) hstart.symm

/-- No window is in two runs. -/
theorem IsMaximalRun.eq_of_hasWindow (hs : s.IsMaximalRun found width)
    (ht : t.IsMaximalRun found width) {m : Match} (hms : s.HasWindow width m)
    (hmt : t.HasWindow width m) : s = t := by
  obtain ⟨i, hi, rfl⟩ := hms
  obtain ⟨j, hj, h⟩ := hmt
  obtain rfl := Nat.le_antisymm (ht.le_of_along_eq hs hi h.symm) (hs.le_of_along_eq ht hj h)
  refine hs.eq_of_start_eq ht ?_
  simp only [start, Match.along, Match.mk.injEq] at h ⊢
  omega

/-- A stretch whose windows all match lies inside the run of its first window. -/
theorem IsMaximalRun.within (ht : t.IsMaximalRun found width)
    (hwindows : ∀ m, s.HasWindow width m → m ∈ found) (hstart : t.HasWindow width s.start) :
    s.Within t := by
  obtain ⟨i, hi, h⟩ := hstart
  refine ⟨i, h, ?_⟩
  by_contra hlt
  refine ht.after (hwindows _ ⟨t.length - width + 1 - i, by omega, ?_⟩)
  rw [h, Match.along_along]
  congr 1
  omega

end MaximalRun

end Segment

/-! ## The segments of a list of matches -/

section Diagonal

variable {found : List Match} {width : Nat}

/-- The segment of the run that starts at a match. -/
def segmentFrom (found : List Match) (width : Nat) (first : Match) : Segment :=
  ⟨first.left, first.right,
    first.runLength (Std.HashSet.ofList found) (Std.HashSet.ofList found).size + width - 1⟩

theorem mem_diagonalSegments (hwidth : 0 < width) {s : Segment} :
    s ∈ diagonalSegments found width ↔
      ∃ first ∈ found, (∀ earlier ∈ found, earlier.next ≠ first) ∧
        segmentFrom found width first = s := by
  rw [diagonalSegments, if_neg (Nat.ne_of_gt hwidth)]
  simp only [List.mem_map, List.mem_mergeSort, List.mem_filter, Std.HashSet.mem_toList,
    Std.HashSet.mem_ofList, List.contains_iff_mem, Match.startsRun_iff, and_assoc, segmentFrom]

theorem isMaximalRun_segmentFrom (hwidth : 0 < width) {first : Match} (hfirst : first ∈ found)
    (hbefore : ∀ earlier ∈ found, earlier.next ≠ first) :
    (segmentFrom found width first).IsMaximalRun found width := by
  have hcontains (m : Match) : (Std.HashSet.ofList found).contains m ↔ m ∈ found := by
    rw [Std.HashSet.contains_ofList, List.contains_iff_mem]
  have hend := Match.not_contains_along_runLength (Std.HashSet.ofList found) first
  have hin (j : Nat)
      (hj : j < first.runLength (Std.HashSet.ofList found) (Std.HashSet.ofList found).size) :
      first.along j ∈ found := (hcontains _).mp (Match.contains_of_lt_runLength hj)
  unfold segmentFrom
  generalize first.runLength (Std.HashSet.ofList found) (Std.HashSet.ofList found).size = length
    at hend hin ⊢
  rw [hcontains] at hend
  have hpos : 0 < length := Nat.pos_of_ne_zero fun hzero => hend (hzero ▸ hfirst)
  constructor
  case width_le => exact Nat.le_sub_of_add_le (by omega)
  case windows =>
    rintro m ⟨j, hj, rfl⟩
    exact hin j (by simp only at hj; omega)
  case before => exact hbefore
  case after => rwa [show length + width - 1 - width + 1 = length by omega]

theorem mem_diagonalSegments_iff (hwidth : 0 < width)
    {s : Segment} : s ∈ diagonalSegments found width ↔ s.IsMaximalRun found width := by
  rw [mem_diagonalSegments hwidth]
  constructor
  · rintro ⟨first, hfirst, hbefore, rfl⟩
    exact isMaximalRun_segmentFrom hwidth hfirst hbefore
  · intro hs
    have hstart := hs.windows _ (Segment.hasWindow_start hs.width_le)
    exact ⟨s.start, hstart, hs.before,
      (isMaximalRun_segmentFrom hwidth hstart hs.before).eq_of_start_eq hs rfl⟩

/-- Every match is a window of a segment. -/
theorem exists_isMaximalRun {m : Match} (hwidth : 0 < width) (hm : m ∈ found) :
    ∃ s : Segment, s.IsMaximalRun found width ∧ s.HasWindow width m := by
  obtain ⟨first, hfirst, hbefore, j, rfl, hrun⟩ := Match.exists_first hm
  have hs := isMaximalRun_segmentFrom hwidth hfirst hbefore
  refine ⟨_, hs, j, ?_, rfl⟩
  by_contra hlt
  have := hs.width_le
  exact hs.after (hrun _ (by omega))

end Diagonal

end SourceSimilarity.Fingerprint
