import SourceSimilarity.Fingerprint.Tiling

/-!
# The board of a tiling

Which characters stay free when stretches of the left text are covered, how far a free stretch reads
like a text, and which of the runs at the offsets tried is taken.
-/

namespace SourceSimilarity.Fingerprint

/-- Two stretches read the same if they do so at each place. -/
theorem take_drop_eq_iff {left right : Text} {a b n : Nat} :
    (left.drop a).take n = (right.drop b).take n ↔ ∀ i < n, left[a + i]? = right[b + i]? := by
  constructor
  · intro h i hi
    have hchar := congrArg (fun stretch => stretch[i]?) h
    simpa only [List.getElem?_take_of_lt hi, List.getElem?_drop] using hchar
  · intro h
    apply List.ext_getElem?
    intro i
    by_cases hi : i < n
    · rw [List.getElem?_take_of_lt hi, List.getElem?_take_of_lt hi, List.getElem?_drop,
        List.getElem?_drop, h i hi]
    · rw [List.getElem?_eq_none (by simp; omega), List.getElem?_eq_none (by simp; omega)]

namespace Tiling

/-! ## Free characters -/

namespace Board

variable (board : Board)

theorem covered_cover_succ (offset length : Nat) :
    (board.cover offset (length + 1)).covered =
      (board.cover offset length).covered.setIfInBounds (offset + length) true := by
  simp only [cover, List.range_succ, List.foldl_append, List.foldl_cons, List.foldl_nil]

/-- What is free after a stretch has been covered was free before, and lies outside. -/
theorem covered_cover_eq_false_iff (offset length i : Nat) :
    (board.cover offset length).covered[i]? = some false ↔
      board.covered[i]? = some false ∧ ¬ (offset ≤ i ∧ i < offset + length) := by
  induction length with
  | zero =>
    simp only [cover, List.range_zero, List.foldl_nil]
    exact (and_iff_left (by omega)).symm
  | succ length ih =>
    rw [covered_cover_succ, Array.getElem?_setIfInBounds]
    by_cases hi : offset + length = i
    · rw [if_pos hi]
      split
      · simp
        omega
      · simp
        omega
    · rw [if_neg hi, ih]
      constructor
      · rintro ⟨hfree, hout⟩
        exact ⟨hfree, by omega⟩
      · rintro ⟨hfree, hout⟩
        exact ⟨hfree, by omega⟩

theorem free?_eq_some_iff {board : Board} {i : Nat} {c : Char} :
    board.free? i = some c ↔ board.covered[i]? = some false ∧ board.text[i]? = some c := by
  unfold free?
  split
  · rename_i hfree
    simp [hfree]
  · rename_i hfree
    simp [hfree]

theorem free?_cover_iff {offset length i : Nat} {c : Char} :
    (board.cover offset length).free? i = some c ↔
      board.free? i = some c ∧ ¬ (offset ≤ i ∧ i < offset + length) := by
  rw [free?_eq_some_iff, free?_eq_some_iff, covered_cover_eq_false_iff]
  exact and_right_comm

/-- On a new board every character is free. -/
theorem free?_ofText (text : Text) (i : Nat) : (ofText text).free? i = text[i]? := by
  unfold free? ofText
  by_cases hi : i < text.length
  · simp [hi]
  · simp [hi]

/-- The offsets tried are the first ones that are free. -/
theorem takeFree_eq (limit : Nat) (offsets : List Nat) :
    board.takeFree limit offsets =
      (offsets.filter fun i => board.covered[i]? = some false).take limit := by
  induction offsets generalizing limit with
  | nil => cases limit <;> simp [takeFree]
  | cons offset rest ih =>
    cases limit with
    | zero => simp [takeFree]
    | succ limit =>
      by_cases hfree : board.covered[offset]? = some false
      · simp [takeFree, hfree, ih]
      · simp [takeFree, hfree, ih]

/-- An offset among the first ones is tried if it is free. -/
theorem mem_takeFree_of_mem_take {limit i : Nat} {offsets : List Nat} (h : i ∈ offsets.take limit)
    (hfree : board.covered[i]? = some false) : i ∈ board.takeFree limit offsets := by
  have hfirst : i ∈ (offsets.take limit).filter fun i => board.covered[i]? = some false :=
    List.mem_filter.mpr ⟨h, by simpa using hfree⟩
  have hfew := Nat.le_trans
    (List.length_filter_le (fun i => decide (board.covered[i]? = some false)) (offsets.take limit))
    (List.length_take_le limit offsets)
  rw [takeFree_eq, ← List.take_append_drop limit offsets, List.filter_append, List.take_append,
    List.take_of_length_le hfew]
  exact List.mem_append_left _ hfirst

/-- On a new board the offsets tried are the first ones. -/
theorem takeFree_ofText {text : Text} {offsets : List Nat} (h : ∀ i ∈ offsets, i < text.length)
    (limit : Nat) : (ofText text).takeFree limit offsets = offsets.take limit := by
  rw [takeFree_eq, List.filter_eq_self.mpr]
  intro i hi
  simp [ofText, h i hi]

/-! ## Common runs -/

/-- A common run reaches as far as the characters are free and read like the text. -/
theorem le_commonRun_iff {offset n : Nat} {text : Text} :
    n ≤ board.commonRun offset text ↔
      ∀ i < n, ∃ c, text[i]? = some c ∧ board.free? (offset + i) = some c := by
  induction text generalizing offset n with
  | nil =>
    constructor
    · intro h i hi
      exact absurd (Nat.lt_of_lt_of_le hi h) (Nat.not_lt_zero i)
    · intro h
      refine Nat.le_of_not_lt fun hlt => ?_
      obtain ⟨c, hc, -⟩ := h 0 (Nat.zero_lt_of_lt hlt)
      simp at hc
  | cons c rest ih =>
    rw [commonRun]
    cases n with
    | zero => simp
    | succ n =>
      by_cases hfree : board.free? offset = some c
      · rw [if_pos hfree, Nat.succ_le_succ_iff, ih]
        constructor
        · intro h i hi
          cases i with
          | zero => exact ⟨c, rfl, hfree⟩
          | succ i =>
            obtain ⟨d, hd, hnext⟩ := h i (by omega)
            exact ⟨d, by simpa using hd, by rwa [Nat.add_right_comm] at hnext⟩
        · intro h i hi
          obtain ⟨d, hd, hnext⟩ := h (i + 1) (by omega)
          exact ⟨d, by simpa using hd, by rwa [Nat.add_right_comm]⟩
      · rw [if_neg hfree]
        constructor
        · intro h
          exact absurd h (Nat.not_succ_le_zero n)
        · intro h
          obtain ⟨d, hd, hfirst⟩ := h 0 (Nat.succ_pos n)
          simp only [List.getElem?_cons_zero, Option.some.injEq] at hd
          exact absurd (hd ▸ hfirst) hfree

/-- A common run is free and reads like the front of the text. -/
theorem of_lt_commonRun {offset : Nat} {text : Text} {i : Nat}
    (h : i < board.commonRun offset text) :
    ∃ c, text[i]? = some c ∧ board.free? (offset + i) = some c :=
  board.le_commonRun_iff.mp h i (Nat.lt_succ_self i)

/-- On a new board a run reaches as far as the texts read the same. -/
theorem le_commonRun_ofText_iff {left right : Text} {i j n : Nat} (hi : i + n ≤ left.length) :
    n ≤ (ofText left).commonRun i (right.drop j) ↔
      (left.drop i).take n = (right.drop j).take n := by
  rw [le_commonRun_iff, take_drop_eq_iff]
  refine forall₂_congr fun m hm => ?_
  have hin : i + m < left.length := by omega
  simp only [List.getElem?_drop, free?_ofText, List.getElem?_eq_getElem hin]
  constructor
  · rintro ⟨c, hright, hleft⟩
    rw [hleft, hright]
  · intro hsame
    exact ⟨left[i + m], hsame.symm, rfl⟩

end Board

/-! ## The longest run -/

theorem foldl_longer_mem (run : Nat × Nat) (runs : List (Nat × Nat)) :
    runs.foldl longer run ∈ run :: runs := by
  induction runs generalizing run with
  | nil => exact List.mem_cons_self
  | cons next runs ih =>
    rw [List.foldl_cons]
    rcases List.mem_cons.mp (ih (longer run next)) with heq | hmem
    · rw [heq]
      unfold longer
      split
      · exact List.mem_cons_of_mem _ List.mem_cons_self
      · exact List.mem_cons_self
    · exact List.mem_cons_of_mem _ (List.mem_cons_of_mem _ hmem)

/-- The first run is kept if no later one is longer. -/
theorem foldl_longer_of_le {run : Nat × Nat} {runs : List (Nat × Nat)}
    (h : ∀ next ∈ runs, next.1 ≤ run.1) : runs.foldl longer run = run := by
  induction runs with
  | nil => rfl
  | cons next runs ih =>
    have hfirst : longer run next = run := by
      rw [longer, if_neg (Nat.not_lt.mpr (h next (by simp)))]
    rw [List.foldl_cons, hfirst]
    exact ih fun later hlater => h later (by simp [hlater])

variable {board : Board} {width : Nat} {offsets : List Nat} {right : Text}

/-- The run taken is at one of the offsets tried and long enough, and it is the common run there. -/
theorem of_bestRun {length left : Nat}
    (h : bestRun board width offsets right = some (length, left)) :
    left ∈ board.takeFree maxCandidates offsets ∧ width ≤ length ∧
      board.commonRun left right = length := by
  unfold bestRun at h
  dsimp only at h
  split at h
  · cases h
  · rename_i run runs hruns
    have hmem := foldl_longer_mem run runs
    rw [Option.some.inj h, ← hruns, List.mem_filter] at hmem
    obtain ⟨offset, hoffset, heq⟩ := List.mem_map.mp hmem.1
    cases heq
    exact ⟨hoffset, by simpa using hmem.2, rfl⟩

/-- No run is taken if those at the offsets tried are all too short. -/
theorem bestRun_eq_none_iff :
    bestRun board width offsets right = none ↔
      ∀ offset ∈ board.takeFree maxCandidates offsets, board.commonRun offset right < width := by
  unfold bestRun
  dsimp only
  split
  · rename_i hruns
    simpa [List.filter_eq_nil_iff] using hruns
  · rename_i run runs hruns
    refine iff_of_false (by simp) fun hshort => ?_
    have hrun : run ∈ run :: runs := List.mem_cons_self
    rw [← hruns, List.mem_filter] at hrun
    obtain ⟨offset, hoffset, rfl⟩ := List.mem_map.mp hrun.1
    have hlong : width ≤ board.commonRun offset right := by simpa using hrun.2
    exact absurd (hshort offset hoffset) (Nat.not_lt.mpr hlong)

/-- The run at the first offset tried is taken if it is long enough and none is longer. -/
theorem bestRun_of_forall_le {first : Nat} {others : List Nat}
    (hfirst : board.takeFree maxCandidates offsets = first :: others)
    (hwidth : width ≤ board.commonRun first right)
    (hlongest : ∀ offset, board.commonRun offset right ≤ board.commonRun first right) :
    bestRun board width offsets right = some (board.commonRun first right, first) := by
  unfold bestRun
  dsimp only
  rw [hfirst, List.map_cons, List.filter_cons_of_pos (by simpa using hwidth)]
  simp only [Option.some.injEq]
  refine foldl_longer_of_le fun run hrun => ?_
  obtain ⟨offset, -, rfl⟩ := List.mem_map.mp (List.mem_filter.mp hrun).1
  exact hlongest offset

end Tiling

end SourceSimilarity.Fingerprint
