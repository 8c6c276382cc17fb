import Mathlib.Data.List.Perm.Basic
import SourceSimilarity.Proofs.Fingerprint.Match

/-!
# Matches are a join

The matches of two texts are looked up in an index of one of them. What comes out is what comparing
every hash of the one with every hash of the other would give, each pair once and in order. So it
does not matter which of the texts the index was made of.
-/

namespace SourceSimilarity.Fingerprint

/-! ## Order and sides of matches -/

namespace Match

/-- The match that the texts have when they are exchanged. -/
def mirror (m : Match) : Match :=
  ⟨m.right, m.left⟩

theorem mirror_mirror (m : Match) : m.mirror.mirror = m :=
  rfl

theorem mirror_injective : Function.Injective mirror :=
  Function.LeftInverse.injective mirror_mirror

instance : Std.Irrefl Before where
  irrefl m h := by
    simp [Before] at h

end Match

/-! ## Joins -/

/-- The matches are the pairs of places at which two lists have the same entry. -/
def PairsEqual {α : Type} (left right : List α) (found : List Match) : Prop :=
  ∀ m, m ∈ found ↔ m.left < left.length ∧ m.right < right.length ∧ left[m.left]? = right[m.right]?

/-- The pairs of places at which two lists have the same entry, each once and ascending. -/
structure IsJoin {α : Type} (left right : List α) (found : List Match) : Prop where
  pairs : PairsEqual left right found
  nodup : found.Nodup
  ascending : found.Pairwise Match.Before

section Join

variable {α : Type} {left right : List α} {found found' : List Match}

theorem exists_entry_iff {i j : Nat} :
    (∃ entry, left[i]? = some entry ∧ right[j]? = some entry) ↔
      i < left.length ∧ j < right.length ∧ left[i]? = right[j]? := by
  constructor
  · rintro ⟨entry, hleft, hright⟩
    exact ⟨(List.getElem?_eq_some_iff.mp hleft).1, (List.getElem?_eq_some_iff.mp hright).1,
      hleft.trans hright.symm⟩
  · rintro ⟨hi, -, heq⟩
    exact ⟨left[i], List.getElem?_eq_getElem hi, heq ▸ List.getElem?_eq_getElem hi⟩

theorem PairsEqual.mirror (h : PairsEqual left right found) :
    PairsEqual right left (found.map Match.mirror) := by
  intro m
  rw [← m.mirror_mirror, List.mem_map_of_injective Match.mirror_injective, h]
  simp only [Match.mirror]
  constructor
  · rintro ⟨hi, hj, heq⟩
    exact ⟨hj, hi, heq.symm⟩
  · rintro ⟨hj, hi, heq⟩
    exact ⟨hi, hj, heq.symm⟩

/-- A join of the lists exchanged has the same pairs. -/
theorem IsJoin.perm_map_mirror (h : IsJoin left right found) (h' : IsJoin right left found') :
    found'.Perm (found.map Match.mirror) := by
  rw [List.perm_ext_iff_of_nodup h'.nodup (h.nodup.map Match.mirror_injective)]
  intro m
  rw [h'.pairs, h.pairs.mirror]

end Join

theorem isJoin_findMatches (left right : Text) (width : Nat) :
    IsJoin (hashes left (clampWidth width left right)) (hashes right (clampWidth width left right))
      (findMatches left right width) where
  pairs _ := mem_findMatches.trans exists_entry_iff
  nodup := (pairwise_findMatches left right width).nodup
  ascending := pairwise_findMatches left right width

/-! ## The matches of two texts -/

/-- Two texts match at all pairs of places with one hash and at no others, and the matches are
listed once and in order. Windows that read the same are among them. Exchanging the texts exchanges
the sides of the matches. -/
theorem findMatches_join (left right : Text) {width : Nat} (hwidth : 0 < width) :
    IsJoin (hashes left (clampWidth width left right)) (hashes right (clampWidth width left right))
      (findMatches left right width) ∧
    (∀ i j, i + clampWidth width left right ≤ left.length →
      j + clampWidth width left right ≤ right.length →
      (left.drop i).take (clampWidth width left right) =
        (right.drop j).take (clampWidth width left right) →
      ⟨i, j⟩ ∈ findMatches left right width) ∧
    (findMatches right left width).Perm ((findMatches left right width).map Match.mirror) := by
  refine ⟨isJoin_findMatches left right width, fun i j hi hj h => ?_, ?_⟩
  · exact mem_findMatches_of_take_drop_eq (le_clampWidth hwidth) hi hj h
  · have hexchanged := isJoin_findMatches right left width
    rw [clampWidth_comm] at hexchanged
    exact (isJoin_findMatches left right width).perm_map_mirror hexchanged

/-- A window that stands twice in one text matches twice. -/
theorem findMatches_join_repeated :
    0 < 2 ∧ findMatches ['a', 'b', 'a', 'b'] ['b', 'a', 'b'] 2 = [⟨0, 1⟩, ⟨1, 0⟩, ⟨2, 1⟩] ∧
      ⟨2, 1⟩ ∈ findMatches ['a', 'b', 'a', 'b'] ['b', 'a', 'b'] 2 ∧
      (findMatches ['b', 'a', 'b'] ['a', 'b', 'a', 'b'] 2).Perm [⟨1, 0⟩, ⟨0, 1⟩, ⟨1, 2⟩] := by
  have hleft : hashes ['a', 'b', 'a', 'b'] 2 = [24930, 25185, 24930] := by decide
  have hright : hashes ['b', 'a', 'b'] 2 = [25185, 24930] := by decide
  have hfound : findMatches ['a', 'b', 'a', 'b'] ['b', 'a', 'b'] 2 =
      [⟨0, 1⟩, ⟨1, 0⟩, ⟨2, 1⟩] := by
    simp [findMatches, clampWidth, hleft, hright, matchesFrom, OffsetIndex.ofHashes,
      OffsetIndex.offsets_ofHashesFrom_cons, List.mergeSort, Match.precedes]
  obtain ⟨-, hsame, hperm⟩ :=
    findMatches_join ['a', 'b', 'a', 'b'] ['b', 'a', 'b'] (show 0 < 2 by decide)
  rw [hfound] at hperm
  exact ⟨by decide, hfound, hsame 2 1 (by decide) (by decide) (by decide), hperm⟩

end SourceSimilarity.Fingerprint
