import SourceSimilarity.Batch.Pair
import SourceSimilarity.Proofs.Fingerprint.Covered

/-!
# What a pair has matched

The matched length of a pair is the number of places of the left document that lie in one of its
segments. Which order the segments have does not show in it, nor whether one is listed twice, and
segments inside a text never count more places than the text has.
-/

namespace SourceSimilarity.Batch.Pair

open Finset Fingerprint

/-- The places of the left document that lie in a segment. -/
def matchedPlaces (pair : Pair) : Finset Nat :=
  placesIn (spansFrom Segment.left pair.segments)

variable {pair : Pair}

theorem mem_matchedPlaces {i : Nat} :
    i ∈ pair.matchedPlaces ↔ ∃ s ∈ pair.segments, s.left ≤ i ∧ i < s.left + s.length := by
  simp only [matchedPlaces, mem_placesIn, spansFrom, List.mem_map, exists_exists_and_eq_and]

theorem matchedLength_eq_card (pair : Pair) : pair.matchedLength = pair.matchedPlaces.card :=
  coveredLength_eq_card pair.segments

theorem matchedPlaces_congr {other : Pair} (h : ∀ s, s ∈ other.segments ↔ s ∈ pair.segments) :
    other.matchedPlaces = pair.matchedPlaces := by
  ext i
  simp only [mem_matchedPlaces, h]

theorem matchedLength_le {limit : Nat} (h : ∀ s ∈ pair.segments, s.left + s.length ≤ limit) :
    pair.matchedLength ≤ limit :=
  calc pair.matchedLength = pair.matchedPlaces.card := matchedLength_eq_card pair
    _ ≤ (range limit).card := card_le_card (placesIn_spansFrom_subset h)
    _ = limit := card_range limit

/-- Every place in a segment is counted once, whatever the segments have in common. Only which
segments there are matters, and the count stays in every range that holds the ends of them. -/
theorem matchedLength_counts (pair : Pair) :
    (∃ places : Finset Nat,
      (∀ i, i ∈ places ↔ ∃ s ∈ pair.segments, s.left ≤ i ∧ i < s.left + s.length) ∧
      pair.matchedLength = places.card) ∧
    (∀ other : Pair, (∀ s, s ∈ other.segments ↔ s ∈ pair.segments) →
      other.matchedLength = pair.matchedLength) ∧
    ∀ limit, (∀ s ∈ pair.segments, s.left + s.length ≤ limit) → pair.matchedLength ≤ limit := by
  refine ⟨⟨pair.matchedPlaces, fun i => mem_matchedPlaces, matchedLength_eq_card pair⟩, ?_, ?_⟩
  · intro other h
    rw [matchedLength_eq_card, matchedLength_eq_card, matchedPlaces_congr h]
  · exact fun limit h => matchedLength_le h

/-- Two segments overlap, one lies inside another, one is listed twice and one is empty. -/
theorem matchedLength_counts_overlapping :
    (Pair.mk "a" "b" 0.5 3
      [⟨2, 10, 5⟩, ⟨20, 30, 3⟩, ⟨0, 0, 5⟩, ⟨2, 7, 3⟩, ⟨9, 9, 0⟩, ⟨20, 30, 3⟩]).matchedLength =
        10 := by
  obtain ⟨⟨places, hplaces, hcard⟩, -, -⟩ := matchedLength_counts (Pair.mk "a" "b" 0.5 3
    [⟨2, 10, 5⟩, ⟨20, 30, 3⟩, ⟨0, 0, 5⟩, ⟨2, 7, 3⟩, ⟨9, 9, 0⟩, ⟨20, 30, 3⟩])
  have hunion : places = range 7 ∪ Ico 20 23 := by
    ext i
    simp only [hplaces, List.mem_cons, List.not_mem_nil, or_false, exists_eq_or_imp, exists_eq_left,
      mem_union, mem_range, mem_Ico]
    omega
  rw [hcard, hunion]
  rfl

end SourceSimilarity.Batch.Pair
