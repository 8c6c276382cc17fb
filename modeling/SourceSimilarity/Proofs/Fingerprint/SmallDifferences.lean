import Mathlib.Data.Nat.Digits.Lemmas
import SourceSimilarity.Proofs.Fingerprint.Jaccard
import SourceSimilarity.Proofs.Fingerprint.Join

/-!
# Small differences never collide

The base has no factor in common with the prime, so where two windows read the same outside a block,
their hashes are equal only if the values of the two blocks are congruent. Blocks of one character,
and blocks of at most three characters below the base, have values below the prime that tell them
apart. So narrow windows of such characters have hashes of their own, and the score and the matches
are those of the windows.
-/

namespace SourceSimilarity.Fingerprint

open Finset

/-! ## Windows as digits -/

section Digits

variable {u v : Text}

theorem value_eq_ofDigits (window : Text) :
    value window = Nat.ofDigits 256 (window.reverse.map Char.toNat) := by
  induction window with
  | nil => rfl
  | cons c window ih =>
    rw [value_cons, ih, List.reverse_cons, List.map_append, Nat.ofDigits_append, List.map_singleton,
      Nat.ofDigits_singleton, List.length_map, List.length_reverse, Nat.mul_comm, Nat.add_comm]

theorem value_append (u v : Text) : value (u ++ v) = value u * 256 ^ v.length + value v := by
  rw [value_eq_ofDigits, value_eq_ofDigits u, value_eq_ofDigits v, List.reverse_append,
    List.map_append, Nat.ofDigits_append, List.length_map, List.length_reverse, Nat.mul_comm,
    Nat.add_comm]

theorem digit_lt_base (h : ∀ c ∈ u, c.toNat < 256) : ∀ d ∈ u.reverse.map Char.toNat, d < 256 := by
  intro d hd
  obtain ⟨c, hc, rfl⟩ := List.mem_map.mp hd
  exact h c (List.mem_reverse.mp hc)

theorem value_lt (h : ∀ c ∈ u, c.toNat < 256) : value u < 256 ^ u.length := by
  have hlt := Nat.ofDigits_lt_base_pow_length (show 1 < 256 by decide) (digit_lt_base h)
  rwa [← value_eq_ofDigits, List.length_map, List.length_reverse] at hlt

/-- Three characters below the base have a value below the prime. -/
theorem value_lt_prime (hlength : u.length ≤ 3) (h : ∀ c ∈ u, c.toNat < 256) :
    value u < 1000000007 :=
  calc value u < 256 ^ u.length := value_lt h
    _ ≤ 256 ^ 3 := Nat.pow_le_pow_right (by decide) hlength
    _ < 1000000007 := by decide

theorem eq_of_value_eq (hlength : u.length = v.length) (hu : ∀ c ∈ u, c.toNat < 256)
    (hv : ∀ c ∈ v, c.toNat < 256) (h : value u = value v) : u = v := by
  rw [value_eq_ofDigits, value_eq_ofDigits] at h
  have hdigits := Nat.ofDigits_inj_of_len_eq (by decide) (by simpa using hlength) (digit_lt_base hu)
    (digit_lt_base hv) h
  exact List.reverse_injective
    (List.map_injective_iff.mpr (fun _ _ => Char.toNat_inj.mp) hdigits)

/-- One character is below the prime, whichever it is. -/
theorem value_lt_prime_of_length_le_one (hlength : u.length ≤ 1) : value u < 1000000007 := by
  match u, hlength with
  | [], _ => decide
  | [c], _ =>
    have hdigit := toNat_digit_lt c
    rw [toNat_digit] at hdigit
    rw [value_eq_ofDigits, List.reverse_singleton, List.map_singleton, Nat.ofDigits_singleton]
    omega

theorem eq_of_value_eq_of_length_le_one (hlength : u.length = v.length) (hone : u.length ≤ 1)
    (h : value u = value v) : u = v := by
  match u, v, hlength, hone with
  | [], [], _, _ => rfl
  | [c], [d], _, _ =>
    rw [value_eq_ofDigits, value_eq_ofDigits] at h
    simp only [List.reverse_singleton, List.map_singleton, Nat.ofDigits_singleton] at h
    rw [Char.toNat_inj.mp h]

end Digits

/-! ## Blocks in equal surroundings -/

/-- The texts read the same outside the `n` places from `i` on. -/
def AgreeOutside (u v : Text) (i n : Nat) : Prop :=
  ∀ j, j < i ∨ i + n ≤ j → u[j]? = v[j]?

/-- The two windows differ in one place only, or only inside a block of at most three characters
below the base. -/
inductive SmallDifference (u v : Text) : Prop
  | place (i : Nat) (h : AgreeOutside u v i 1)
  | block (i n : Nat) (hn : n ≤ 3) (h : AgreeOutside u v i n)
      (hu : ∀ c ∈ (u.drop i).take n, c.toNat < 0x100)
      (hv : ∀ c ∈ (v.drop i).take n, c.toNat < 0x100)

section Block

variable {u v : Text} {i n : Nat}

theorem AgreeOutside.take_eq (h : AgreeOutside u v i n) : u.take i = v.take i := by
  refine List.ext_getElem? fun j => ?_
  rw [List.getElem?_take, List.getElem?_take]
  split
  · rename_i hj
    exact h j (.inl hj)
  · rfl

theorem AgreeOutside.drop_eq (h : AgreeOutside u v i n) : u.drop (i + n) = v.drop (i + n) := by
  refine List.ext_getElem? fun j => ?_
  rw [List.getElem?_drop, List.getElem?_drop]
  exact h (i + n + j) (.inr (Nat.le_add_right _ _))

theorem take_append_block (u : Text) (i n : Nat) :
    u.take i ++ ((u.drop i).take n ++ u.drop (i + n)) = u := by
  rw [← List.drop_drop, List.take_append_drop, List.take_append_drop]

/-- Texts that agree outside a block are equal if their blocks are. -/
theorem AgreeOutside.eq (h : AgreeOutside u v i n)
    (hblock : (u.drop i).take n = (v.drop i).take n) : u = v := by
  rw [← take_append_block u i n, ← take_append_block v i n, h.take_eq, h.drop_eq, hblock]

theorem length_block_eq (hlength : u.length = v.length) (i n : Nat) :
    ((u.drop i).take n).length = ((v.drop i).take n).length := by
  rw [List.length_take, List.length_take, List.length_drop, List.length_drop, hlength]

/-- What stands around the blocks cancels, because the base is invertible. -/
theorem AgreeOutside.block_modEq (h : AgreeOutside u v i n) (hlength : u.length = v.length)
    (hvalue : value u ≡ value v [MOD 1000000007]) :
    value ((u.drop i).take n) ≡ value ((v.drop i).take n) [MOD 1000000007] := by
  rw [← take_append_block u i n, ← take_append_block v i n, h.take_eq, h.drop_eq, value_append,
    value_append _ (_ ++ _), value_append, value_append _ (v.drop _), List.length_append,
    List.length_append, length_block_eq hlength] at hvalue
  have hinvertible : Nat.gcd 1000000007 (256 ^ (v.drop (i + n)).length) = 1 :=
    Nat.Coprime.pow_right _ (by decide)
  exact ((hvalue.add_left_cancel' _).add_right_cancel' _).cancel_right_of_coprime hinvertible

theorem windowHash_eq_iff : windowHash u = windowHash v ↔ value u ≡ value v [MOD 1000000007] := by
  rw [← UInt64.toNat_inj, toNat_windowHash, toNat_windowHash]
  rfl

/-- Windows with one hash that agree outside a block are equal, if the blocks have values below the
prime that tell them apart. -/
theorem AgreeOutside.eq_of_windowHash_eq (h : AgreeOutside u v i n) (hlength : u.length = v.length)
    (hu : value ((u.drop i).take n) < 1000000007) (hv : value ((v.drop i).take n) < 1000000007)
    (hapart : value ((u.drop i).take n) = value ((v.drop i).take n) →
      (u.drop i).take n = (v.drop i).take n)
    (hhash : windowHash u = windowHash v) : u = v := by
  have hvalue := h.block_modEq hlength (windowHash_eq_iff.mp hhash)
  exact h.eq (hapart (hvalue.eq_of_lt_of_lt hu hv))

theorem SmallDifference.eq_of_windowHash_eq (h : SmallDifference u v)
    (hlength : u.length = v.length) (hhash : windowHash u = windowHash v) : u = v := by
  cases h with
  | place i h =>
    exact h.eq_of_windowHash_eq hlength
      (value_lt_prime_of_length_le_one (List.length_take_le _ _))
      (value_lt_prime_of_length_le_one (List.length_take_le _ _))
      (eq_of_value_eq_of_length_le_one (length_block_eq hlength i 1) (List.length_take_le _ _))
      hhash
  | block i n hn h hu hv =>
    exact h.eq_of_windowHash_eq hlength
      (value_lt_prime ((List.length_take_le _ _).trans hn) hu)
      (value_lt_prime ((List.length_take_le _ _).trans hn) hv)
      (eq_of_value_eq (length_block_eq hlength i n) hu hv) hhash

end Block

/-! ## Narrow windows -/

/-- A narrow window is one block. -/
theorem smallDifference_of_length_le {u v : Text} (hu : u.length ≤ 3) (hv : v.length ≤ 3)
    (hsmall : ∀ c ∈ u, c.toNat < 0x100) (hsmall' : ∀ c ∈ v, c.toNat < 0x100) :
    SmallDifference u v := by
  refine .block 0 3 (Nat.le_refl 3) (fun j hj => ?_)
    (fun c hc => hsmall c (List.mem_of_mem_take hc)) fun c hc => hsmall' c (List.mem_of_mem_take hc)
  rw [List.getElem?_eq_none (by omega), List.getElem?_eq_none (by omega)]

/-- If different entries of two lists stay different, they have the same pairs as before. -/
theorem PairsEqual.of_map {α β : Type} {f : α → β} {left right : List α} {found : List Match}
    (hinj : ∀ a ∈ left, ∀ b ∈ right, f a = f b → a = b)
    (h : PairsEqual (left.map f) (right.map f) found) : PairsEqual left right found := by
  intro m
  rw [h m, List.length_map, List.length_map, List.getElem?_map, List.getElem?_map]
  refine and_congr_right fun hleft => and_congr_right fun hright => ?_
  rw [List.getElem?_eq_getElem hleft, List.getElem?_eq_getElem hright]
  simp only [Option.map_some, Option.some.injEq]
  constructor
  · exact hinj _ (List.getElem_mem hleft) _ (List.getElem_mem hright)
  · exact congrArg f

/-! ## Scores of texts that may be empty -/

section Quotient

variable {left right : Text} {width : Nat}

/-- An empty text and another one are not alike. -/
theorem scoreOf_eq_zero (h : left = [] ∨ right = []) (hother : ¬(left = [] ∧ right = [])) :
    scoreOf left right width = 0.0 := by
  unfold scoreOf
  rcases h with rfl | rfl
  · rw [List.isEmpty_eq_false_iff.mpr fun hright => hother ⟨rfl, hright⟩]
    rfl
  · rw [List.isEmpty_eq_false_iff.mpr fun hleft => hother ⟨hleft, rfl⟩]
    rfl

/-- An empty text shares nothing. -/
theorem shared_eq_zero (h : left = [] ∨ right = []) :
    (Overlap.ofTexts left right width).shared = 0 := by
  have hnone : width = 0 ∨ left.isEmpty ∨ right.isEmpty :=
    .inr (h.imp List.isEmpty_iff.mpr List.isEmpty_iff.mpr)
  rw [Overlap.ofTexts_eq]
  rcases hashes_eq_nil_of_unmatched hnone with hnil | hnil
  · rw [hnil, List.toFinset_nil, empty_inter, card_empty]
  · rw [hnil, List.toFinset_nil, inter_empty, card_empty]

/-- Wherever there are hashes to count, the score is their quotient, also if one text is empty. -/
theorem similarity_eq_quotient (hwidth : 0 < width)
    (htotal : 0 < (Overlap.ofTexts left right width).total) :
    similarity left right width = .ok (Float.ofNat (Overlap.ofTexts left right width).shared /
      Float.ofNat (Overlap.ofTexts left right width).total) := by
  have hbound : (Overlap.ofTexts left right width).total ≤ 1000000007 := by
    rw [Overlap.ofTexts_eq]
    exact card_hashes_le left right _
  by_cases hempty : left = [] ∨ right = []
  · have hother : ¬(left = [] ∧ right = []) := by
      rintro ⟨rfl, rfl⟩
      have hnil : hashes [] (clampWidth width [] []) = [] :=
        hashes_eq_nil_iff.mpr (.inr (le_clampWidth hwidth))
      rw [Overlap.ofTexts_eq, hnil] at htotal
      exact absurd htotal (Nat.lt_irrefl 0)
    rw [similarity_eq_ok left right hwidth, scoreOf_eq_zero hempty hother, shared_eq_zero hempty,
      ofNat_zero_div htotal (by omega)]
  · obtain ⟨hleft, hright⟩ := not_or.mp hempty
    rw [similarity_eq_score hleft hright hwidth, Overlap.score, if_neg (Nat.ne_of_gt htotal)]

end Quotient

/-! ## Narrow texts -/

section Narrow

theorem mem_allWindows {left right window : Text} {width : Nat} :
    window ∈ allWindows left right width ↔ window ∈ windows left (clampWidth width left right) ∨
      window ∈ windows right (clampWidth width left right) := by
  rw [allWindows, mem_union, windowSet, windowSet, List.mem_toFinset, List.mem_toFinset]

variable {left right : Text} {width : Nat} (hwidth : 0 < width)
  (hnarrow : clampWidth width left right ≤ 3) (hsmall : ∀ c ∈ left ++ right, c.toNat < 0x100)
include hwidth hnarrow hsmall

/-- No two windows of narrow texts collide. -/
theorem injOn_windowHash : Set.InjOn windowHash (allWindows left right width : Set Text) := by
  have hclamped : 0 < clampWidth width left right := le_clampWidth hwidth
  have hwindow (window : Text) (h : window ∈ allWindows left right width) :
      window.length = clampWidth width left right ∧ ∀ c ∈ window, c.toNat < 0x100 := by
    rcases mem_allWindows.mp h with hmem | hmem
    · exact ⟨length_of_mem_windows hclamped hmem, fun c hc =>
        hsmall c (List.mem_append_left _ (subset_of_mem_windows hclamped hmem hc))⟩
    · exact ⟨length_of_mem_windows hclamped hmem, fun c hc =>
        hsmall c (List.mem_append_right _ (subset_of_mem_windows hclamped hmem hc))⟩
  intro u hu v hv h
  obtain ⟨hlength, hchars⟩ := hwindow u hu
  obtain ⟨hlength', hchars'⟩ := hwindow v hv
  exact (smallDifference_of_length_le (by omega) (by omega) hchars hchars').eq_of_windowHash_eq
    (by omega) h

theorem ofTexts_eq_ofWindows :
    Overlap.ofTexts left right width = Overlap.ofWindows left right width := by
  have hinj := injOn_windowHash hwidth hnarrow hsmall
  rw [Overlap.ofTexts_eq, toFinset_hashes, toFinset_hashes, ← image_union,
    ← image_inter_of_injOn _ _ (by simpa [allWindows] using hinj), Overlap.ofWindows, sharedWindows,
    allWindows, card_image_of_injOn, card_image_of_injOn]
  · exact hinj
  · exact hinj.mono (coe_subset.mpr (inter_subset_left.trans subset_union_left))

theorem isJoin_windows :
    IsJoin (windows left (clampWidth width left right))
      (windows right (clampWidth width left right)) (findMatches left right width) := by
  have hjoin := isJoin_findMatches left right width
  have hinj := injOn_windowHash hwidth hnarrow hsmall
  refine ⟨?_, hjoin.nodup, hjoin.ascending⟩
  have hpairs := hjoin.pairs
  rw [hashes_eq_map_windowHash, hashes_eq_map_windowHash] at hpairs
  refine hpairs.of_map fun u hu v hv => ?_
  exact hinj (mem_allWindows.mpr (.inl hu)) (mem_allWindows.mpr (.inr hv))

end Narrow

/-! ## What is told apart -/

/-- Windows with a small difference have different hashes. So in texts of characters below the base,
with a width of at most three, the score is the share of common windows among all windows, wherever
there are windows, and the matches are the pairs of equal windows. -/
theorem small_differences_apart :
    (∀ (text text' : Text) (width i j : Nat) (window window' : Text),
      (windows text width)[i]? = some window → (windows text' width)[j]? = some window' →
      window ≠ window' → SmallDifference window window' →
      ∃ hash hash', (hashes text width)[i]? = some hash ∧ (hashes text' width)[j]? = some hash' ∧
        hash ≠ hash') ∧
    ∀ (left right : Text) (width : Nat), 0 < width → clampWidth width left right ≤ 3 →
      (∀ c ∈ left ++ right, c.toNat < 0x100) →
      (left ≠ [] → right ≠ [] → 0 < (Overlap.ofWindows left right width).total) ∧
      (0 < (Overlap.ofWindows left right width).total →
        similarity left right width = .ok (Float.ofNat (Overlap.ofWindows left right width).shared /
          Float.ofNat (Overlap.ofWindows left right width).total)) ∧
      IsJoin (windows left (clampWidth width left right))
        (windows right (clampWidth width left right)) (findMatches left right width) := by
  constructor
  · intro text text' width i j window window' hwindow hwindow' hne hsmall
    refine ⟨windowHash window, windowHash window', getElem?_hashes_of_windows hwindow,
      getElem?_hashes_of_windows hwindow', fun hhash => hne ?_⟩
    have hwidth : 0 < width := by
      refine Nat.pos_of_ne_zero fun hzero => ?_
      subst hzero
      simp [windows] at hwindow
    refine hsmall.eq_of_windowHash_eq ?_ hhash
    rw [length_of_mem_windows hwidth (List.mem_of_getElem? hwindow),
      length_of_mem_windows hwidth (List.mem_of_getElem? hwindow')]
  · intro left right width hwidth hnarrow hsmall
    have hwindows := ofTexts_eq_ofWindows hwidth hnarrow hsmall
    refine ⟨fun hleft hright => ?_, fun htotal => ?_, isJoin_windows hwidth hnarrow hsmall⟩
    · rw [← hwindows]
      exact total_ofTexts_pos hleft hright hwidth
    · rw [← hwindows] at htotal ⊢
      exact similarity_eq_quotient hwidth htotal

/-- Around a block may stand what will. A width of five is cut down to three, and `cab` is one of
the three windows of `abcab`. -/
theorem small_differences_apart_abc :
    SmallDifference ['♥', 'a', 'b', 'c', '♣'] ['♥', 'x', 'y', 'z', '♣'] ∧
      (∃ hash hash', (hashes ['♥', 'a', 'b', 'c', '♣'] 5)[0]? = some hash ∧
        (hashes ['♥', 'x', 'y', 'z', '♣'] 5)[0]? = some hash' ∧ hash ≠ hash') ∧
      0 < 5 ∧ clampWidth 5 ['c', 'a', 'b'] ['a', 'b', 'c', 'a', 'b'] ≤ 3 ∧
      (∀ c ∈ ['c', 'a', 'b'] ++ ['a', 'b', 'c', 'a', 'b'], c.toNat < 0x100) ∧
      similarity ['c', 'a', 'b'] ['a', 'b', 'c', 'a', 'b'] 5 =
        .ok (Float.ofNat 1 / Float.ofNat 3) ∧
      IsJoin (windows ['c', 'a', 'b'] 3) (windows ['a', 'b', 'c', 'a', 'b'] 3)
        (findMatches ['c', 'a', 'b'] ['a', 'b', 'c', 'a', 'b'] 5) := by
  have hagree : AgreeOutside ['♥', 'a', 'b', 'c', '♣'] ['♥', 'x', 'y', 'z', '♣'] 1 3 := by
    intro j hj
    match j with
    | 0 => rfl
    | 1 | 2 | 3 => omega
    | 4 => rfl
    | j + 5 => rfl
  have hsmall : SmallDifference ['♥', 'a', 'b', 'c', '♣'] ['♥', 'x', 'y', 'z', '♣'] :=
    .block 1 3 (by decide) hagree (by simp) (by simp)
  have hchars : ∀ c ∈ ['c', 'a', 'b'] ++ ['a', 'b', 'c', 'a', 'b'], c.toNat < 0x100 := by simp
  have hwindows : Overlap.ofWindows ['c', 'a', 'b'] ['a', 'b', 'c', 'a', 'b'] 5 = ⟨1, 3⟩ := by
    decide
  obtain ⟨hapart, hnarrow⟩ := small_differences_apart
  obtain ⟨-, hscore, hjoin⟩ :=
    hnarrow ['c', 'a', 'b'] ['a', 'b', 'c', 'a', 'b'] 5 (by decide) (by decide) hchars
  rw [hwindows] at hscore
  exact ⟨hsmall, hapart _ _ 5 0 0 ['♥', 'a', 'b', 'c', '♣'] ['♥', 'x', 'y', 'z', '♣'] (by decide)
    (by decide) (by decide) hsmall, by decide, by decide, hchars, hscore (by decide), hjoin⟩

end SourceSimilarity.Fingerprint
