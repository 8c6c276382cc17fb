import SourceSimilarity.Fingerprint.Match
import SourceSimilarity.Proofs.Fingerprint.Overlap
import SourceSimilarity.Proofs.Fingerprint.Windows

/-!
# Matches are pairs of equal hashes

The list of matches is made by looking the hashes of one text up in an index of the other, and then
sorted. It holds the pairs of places at which the two lists of hashes agree, and no others.
-/

namespace SourceSimilarity.Fingerprint

/-! ## The index -/

namespace OffsetIndex

@[simp]
theorem offsets_ofHashesFrom_nil (offset : Nat) (hash : UInt64) :
    (ofHashesFrom offset []).offsets hash = [] :=
  Std.HashMap.getD_empty

theorem offsets_ofHashesFrom_cons (offset : Nat) (first hash : UInt64) (rest : List UInt64) :
    (ofHashesFrom offset (first :: rest)).offsets hash =
      if first = hash then offset :: (ofHashesFrom (offset + 1) rest).offsets hash
      else (ofHashesFrom (offset + 1) rest).offsets hash := by
  rw [offsets, ofHashesFrom, Std.HashMap.getD_alter]
  by_cases h : first = hash
  · subst h
    rw [if_pos (beq_self_eq_true first), if_pos rfl, offsets,
      Std.HashMap.getD_eq_getD_getElem?]
    rfl
  · rw [if_neg (by simpa using h), if_neg h, offsets]

/-- The offsets of a hash are the places at which it stands. -/
theorem mem_offsets_ofHashesFrom {offset i : Nat} {hash : UInt64} {hashes : List UInt64} :
    i ∈ (ofHashesFrom offset hashes).offsets hash ↔
      offset ≤ i ∧ hashes[i - offset]? = some hash := by
  induction hashes generalizing offset with
  | nil => simp
  | cons first rest ih =>
    have hmem : i ∈ (ofHashesFrom offset (first :: rest)).offsets hash ↔
        first = hash ∧ i = offset ∨ i ∈ (ofHashesFrom (offset + 1) rest).offsets hash := by
      rw [offsets_ofHashesFrom_cons]
      by_cases h : first = hash
      · rw [if_pos h, List.mem_cons, and_iff_right h]
      · rw [if_neg h, or_iff_right fun hfirst => h hfirst.1]
    rw [hmem, ih]
    rcases Nat.lt_trichotomy i offset with hlt | rfl | hgt
    · omega
    · simp
    · have hne : i ≠ offset := by omega
      rw [show i - offset = i - (offset + 1) + 1 by omega, List.getElem?_cons_succ]
      simp [hne, Nat.succ_le_iff.mpr hgt, Nat.le_of_lt hgt]

theorem mem_offsets_ofHashes {i : Nat} {hash : UInt64} {hashes : List UInt64} :
    i ∈ (ofHashes hashes).offsets hash ↔ hashes[i]? = some hash := by
  rw [ofHashes, mem_offsets_ofHashesFrom, Nat.sub_zero]
  exact and_iff_right (Nat.zero_le i)

/-- The first `n` offsets of a hash are those in front of which it stands less than `n` times. -/
theorem mem_take_offsets_ofHashesFrom {offset i n : Nat} {hash : UInt64} {hashes : List UInt64} :
    i ∈ ((ofHashesFrom offset hashes).offsets hash).take n ↔
      offset ≤ i ∧ hashes[i - offset]? = some hash ∧ (hashes.take (i - offset)).count hash < n := by
  induction hashes generalizing offset n with
  | nil => simp
  | cons first rest ih =>
    rw [offsets_ofHashesFrom_cons]
    by_cases h : first = hash
    · subst h
      rw [if_pos rfl]
      cases n with
      | zero => simp
      | succ n =>
        rw [List.take_succ_cons, List.mem_cons, ih]
        rcases Nat.lt_trichotomy i offset with hlt | rfl | hgt
        · omega
        · simp
        · have hne : i ≠ offset := by omega
          rw [show i - offset = i - (offset + 1) + 1 by omega]
          simp [hne, Nat.succ_le_iff.mpr hgt, Nat.le_of_lt hgt]
    · rw [if_neg h, ih]
      rcases Nat.lt_trichotomy i offset with hlt | rfl | hgt
      · omega
      · simp [h]
      · rw [show i - offset = i - (offset + 1) + 1 by omega]
        simp [h, Nat.succ_le_iff.mpr hgt, Nat.le_of_lt hgt]

theorem mem_take_offsets_ofHashes {i n : Nat} {hash : UInt64} {hashes : List UInt64} :
    i ∈ ((ofHashes hashes).offsets hash).take n ↔
      hashes[i]? = some hash ∧ (hashes.take i).count hash < n := by
  rw [ofHashes, mem_take_offsets_ofHashesFrom, Nat.sub_zero]
  exact and_iff_right (Nat.zero_le i)

theorem pairwise_offsets_ofHashesFrom (offset : Nat) (hash : UInt64) (hashes : List UInt64) :
    ((ofHashesFrom offset hashes).offsets hash).Pairwise (· < ·) := by
  induction hashes generalizing offset with
  | nil =>
    rw [offsets_ofHashesFrom_nil]
    exact .nil
  | cons first rest ih =>
    rw [offsets_ofHashesFrom_cons]
    split
    · exact List.pairwise_cons.mpr ⟨fun i hi => (mem_offsets_ofHashesFrom.mp hi).1, ih (offset + 1)⟩
    · exact ih (offset + 1)

end OffsetIndex

/-! ## The order of matches -/

namespace Match

/-- Ascending by left offset, then by right offset. -/
def Before (a b : Match) : Prop :=
  a.left < b.left ∨ a.left = b.left ∧ a.right < b.right

theorem precedes_trans (a b c : Match) : precedes a b → precedes b c → precedes a c := by
  simp only [precedes, Bool.or_eq_true, Bool.and_eq_true, decide_eq_true_eq, beq_iff_eq]
  omega

theorem precedes_total (a b : Match) : (precedes a b || precedes b a) = true := by
  simp only [precedes, Bool.or_eq_true, Bool.and_eq_true, decide_eq_true_eq, beq_iff_eq]
  omega

theorem before_of_precedes {a b : Match} (h : precedes a b) (hne : a ≠ b) : a.Before b := by
  simp only [precedes, Bool.or_eq_true, Bool.and_eq_true, decide_eq_true_eq, beq_iff_eq] at h
  rcases h with hlt | ⟨heq, hle⟩
  · exact .inl hlt
  · refine .inr ⟨heq, Nat.lt_of_le_of_ne hle fun hright => hne ?_⟩
    cases a
    cases b
    simp_all

/-- Sorted matches ascend, if none is there twice. -/
theorem pairwise_before_mergeSort {found : List Match} (hnodup : found.Nodup) :
    (found.mergeSort precedes).Pairwise Before := by
  have hsorted := List.pairwise_mergeSort precedes_trans precedes_total found
  have hnodup' := (List.mergeSort_perm found precedes).nodup_iff.mpr hnodup
  exact (hsorted.and hnodup').imp fun h => before_of_precedes h.1 h.2

end Match

/-! ## The join -/

theorem mem_map_mk {offsets : List Nat} {right : Nat} {m : Match} :
    m ∈ offsets.map (Match.mk · right) ↔ m.right = right ∧ m.left ∈ offsets := by
  constructor
  · intro hm
    obtain ⟨left, hleft, rfl⟩ := List.mem_map.mp hm
    exact ⟨rfl, hleft⟩
  · rintro ⟨rfl, hleft⟩
    exact List.mem_map.mpr ⟨m.left, hleft, rfl⟩

theorem mem_matchesFrom {index : OffsetIndex} {offset : Nat} {hashes : List UInt64} {m : Match} :
    m ∈ matchesFrom index offset hashes ↔
      offset ≤ m.right ∧ ∃ hash, hashes[m.right - offset]? = some hash ∧
        m.left ∈ index.offsets hash := by
  induction hashes generalizing offset with
  | nil => simp [matchesFrom]
  | cons first rest ih =>
    rw [matchesFrom, List.mem_append, mem_map_mk, ih]
    rcases Nat.lt_trichotomy m.right offset with hlt | heq | hgt
    · omega
    · simp [heq]
    · have hne : m.right ≠ offset := by omega
      rw [show m.right - offset = m.right - (offset + 1) + 1 by omega, List.getElem?_cons_succ]
      simp [hne, Nat.succ_le_iff.mpr hgt, Nat.le_of_lt hgt]

/-- The windows of the right text are at different offsets, and so are those of the left text that
match one of them. -/
theorem nodup_matchesFrom {index : OffsetIndex}
    (hindex : ∀ hash, (index.offsets hash).Pairwise (· < ·)) (offset : Nat) (hashes : List UInt64) :
    (matchesFrom index offset hashes).Nodup := by
  induction hashes generalizing offset with
  | nil => exact .nil
  | cons first rest ih =>
    rw [matchesFrom, List.nodup_append]
    refine ⟨?_, ih (offset + 1), ?_⟩
    · rw [List.nodup_iff_pairwise_ne, List.pairwise_map]
      exact (hindex first).imp fun hlt heq => Nat.ne_of_lt hlt (congrArg Match.left heq)
    · rintro a ha b hb rfl
      have hright := (mem_map_mk.mp ha).1
      have hlater := (mem_matchesFrom.mp hb).1
      omega

/-- With an empty text, or without a width, there are no hashes on one side. -/
theorem hashes_eq_nil_of_unmatched {left right : Text} {width : Nat}
    (h : width = 0 ∨ left.isEmpty ∨ right.isEmpty) :
    hashes left (clampWidth width left right) = [] ∨
      hashes right (clampWidth width left right) = [] := by
  rw [hashes_eq_nil_iff, hashes_eq_nil_iff]
  unfold clampWidth
  dsimp only
  rcases h with rfl | h | h
  · simp
  · rw [List.isEmpty_iff.mp h]
    simp
    omega
  · rw [List.isEmpty_iff.mp h]
    simp
    omega

/-- The matches of two texts are the places of equal hashes in them. -/
theorem mem_findMatches {left right : Text} {width : Nat} {m : Match} :
    m ∈ findMatches left right width ↔
      ∃ hash, (hashes left (clampWidth width left right))[m.left]? = some hash ∧
        (hashes right (clampWidth width left right))[m.right]? = some hash := by
  unfold findMatches
  split
  · rename_i hnone
    rcases hashes_eq_nil_of_unmatched hnone with hnil | hnil <;> simp [hnil]
  · dsimp only
    simp only [List.mem_mergeSort, mem_matchesFrom, OffsetIndex.mem_offsets_ofHashes, Nat.zero_le,
      Nat.sub_zero, true_and]
    exact exists_congr fun hash => and_comm

theorem mem_findMatches_clampWidth {left right : Text} {width : Nat} {m : Match} :
    m ∈ findMatches left right (clampWidth width left right) ↔
      m ∈ findMatches left right width := by
  rw [mem_findMatches, mem_findMatches, clampWidth_clampWidth]

theorem pairwise_findMatches (left right : Text) (width : Nat) :
    (findMatches left right width).Pairwise Match.Before := by
  unfold findMatches
  split
  · exact .nil
  · exact Match.pairwise_before_mergeSort
      (nodup_matchesFrom (OffsetIndex.pairwise_offsets_ofHashesFrom 0 · _) 0 _)

/-- Windows that read the same are a match. -/
theorem mem_findMatches_of_take_drop_eq {left right : Text} {width i j : Nat}
    (hwidth : 0 < clampWidth width left right) (hi : i + clampWidth width left right ≤ left.length)
    (hj : j + clampWidth width left right ≤ right.length)
    (h : (left.drop i).take (clampWidth width left right) =
      (right.drop j).take (clampWidth width left right)) :
    ⟨i, j⟩ ∈ findMatches left right width := by
  refine mem_findMatches.mpr ⟨windowHash ((left.drop i).take (clampWidth width left right)), ?_, ?_⟩
  · rw [getElem?_hashes hwidth, if_pos hi]
  · rw [getElem?_hashes hwidth, if_pos hj, h]

end SourceSimilarity.Fingerprint
