import Mathlib.Data.List.Induction
import Mathlib.Data.Nat.ModEq
import Mathlib.Tactic.Ring
import SourceSimilarity.Fingerprint.Hash

/-!
# Window hashes are right

The hash of a window is its value in base 256 modulo the prime, and moving a window along a text
gives the same hashes as reading each window by itself.
-/

namespace SourceSimilarity.Fingerprint

/-! ## Values -/

theorem value_append_singleton (window : Text) (c : Char) :
    value (window ++ [c]) = value window * 256 + c.toNat := by
  simp only [value, List.foldl_append, List.foldl_cons, List.foldl_nil]

theorem value_cons (c : Char) (window : Text) :
    value (c :: window) = c.toNat * 256 ^ window.length + value window := by
  induction window using List.reverseRecOn with
  | nil => simp [value]
  | append_singleton window d ih =>
    rw [← List.cons_append, value_append_singleton, value_append_singleton, ih, List.length_append,
      List.length_singleton]
    ring

/-! ## One window -/

theorem toNat_digit (c : Char) : (digit c).toNat = c.toNat := by
  simp only [digit, UInt32.toNat_toUInt64]
  rfl

theorem toNat_digit_lt (c : Char) : (digit c).toNat < 2 ^ 21 := by
  have hvalid : c.toNat < 0xd800 ∨ 0xdfff < c.toNat ∧ c.toNat < 0x110000 := c.valid
  rw [toNat_digit]
  omega

theorem toNat_base : base.toNat = 256 :=
  rfl

theorem toNat_modulus : modulus.toNat = 1000000007 :=
  rfl

theorem toNat_append {hash : UInt64} (h : hash.toNat < 1000000007) (c : Char) :
    (append hash c).toNat = (hash.toNat * 256 + c.toNat) % 1000000007 := by
  have hdigit := toNat_digit_lt c
  have hsum : hash.toNat * 256 + (digit c).toNat < 2 ^ 64 := by omega
  have hproduct := Nat.lt_of_le_of_lt (Nat.le_add_right _ _) hsum
  rw [append, UInt64.toNat_mod, UInt64.toNat_add, UInt64.toNat_mul, toNat_modulus, toNat_base,
    Nat.mod_eq_of_lt hproduct, Nat.mod_eq_of_lt hsum, toNat_digit]

theorem toNat_windowHash (window : Text) :
    (windowHash window).toNat = value window % 1000000007 := by
  induction window using List.reverseRecOn with
  | nil => rfl
  | append_singleton window c ih =>
    have hlt : (windowHash window).toNat < 1000000007 := by
      rw [ih]
      exact Nat.mod_lt _ (by decide)
    rw [windowHash, List.foldl_append, ← windowHash, List.foldl_cons, List.foldl_nil,
      toNat_append hlt, ih, value_append_singleton]
    exact Nat.ModEq.add_right _ ((Nat.mod_modEq _ _).mul_right _)

theorem windowHash_append_singleton (window : Text) (c : Char) :
    windowHash (window ++ [c]) = append (windowHash window) c := by
  rw [windowHash, List.foldl_append]
  rfl

/-! ## The window moved along -/

theorem toNat_firstWeight (width : Nat) :
    (firstWeight width).toNat = 256 ^ (width - 1) % 1000000007 := by
  unfold firstWeight
  induction width - 1 with
  | zero => rfl
  | succ n ih =>
    have hlt : 256 ^ n % 1000000007 < 1000000007 := Nat.mod_lt _ (by decide)
    have hproduct : 256 ^ n % 1000000007 * 256 < 2 ^ 64 := by omega
    rw [List.range_succ, List.foldl_append, List.foldl_cons, List.foldl_nil, UInt64.toNat_mod,
      UInt64.toNat_mul, ih, toNat_modulus, toNat_base, Nat.mod_eq_of_lt hproduct, pow_succ]
    exact (Nat.mod_modEq _ _).mul_right _

theorem toNat_dropFirst {weight hash : UInt64} (hweight : weight.toNat < 1000000007)
    (hhash : hash.toNat < 1000000007) (c : Char) :
    (dropFirst weight hash c).toNat =
      (hash.toNat + 1000000007 - c.toNat * weight.toNat % 1000000007) % 1000000007 := by
  have hdigit := toNat_digit_lt c
  have hproduct : (digit c).toNat * weight.toNat < 2 ^ 64 := by
    have := Nat.mul_le_mul (Nat.le_of_lt hdigit) (Nat.le_of_lt hweight)
    omega
  have hsum : hash.toNat + 1000000007 < 2 ^ 64 := by omega
  have hout : (digit c * weight % modulus).toNat = c.toNat * weight.toNat % 1000000007 := by
    rw [UInt64.toNat_mod, UInt64.toNat_mul, Nat.mod_eq_of_lt hproduct, toNat_modulus, toNat_digit]
  have hin : (hash % modulus + modulus).toNat = hash.toNat + 1000000007 := by
    rw [UInt64.toNat_add, UInt64.toNat_mod, toNat_modulus, Nat.mod_eq_of_lt hhash,
      Nat.mod_eq_of_lt hsum]
  have hle : digit c * weight % modulus ≤ hash % modulus + modulus := by
    rw [UInt64.le_iff_toNat_le, hout, hin]
    have := Nat.mod_lt (c.toNat * weight.toNat) (show 0 < 1000000007 by decide)
    omega
  rw [dropFirst, UInt64.toNat_mod, UInt64.toNat_sub_of_le _ _ hle, hout, hin, toNat_modulus]

/-- Dropping the first character of a window leaves the hash of the others. -/
theorem dropFirst_windowHash (c : Char) (window : Text) :
    dropFirst (firstWeight (window.length + 1)) (windowHash (c :: window)) c =
      windowHash window := by
  apply UInt64.toNat_inj.mp
  have hweight := toNat_firstWeight (window.length + 1)
  have hhash := toNat_windowHash (c :: window)
  have hpos : 0 < 1000000007 := by decide
  rw [toNat_dropFirst (hweight ▸ Nat.mod_lt _ hpos) (hhash ▸ Nat.mod_lt _ hpos), hweight, hhash,
    toNat_windowHash, value_cons, Nat.add_sub_cancel, Nat.mul_mod_mod]
  generalize c.toNat * 256 ^ window.length = first
  omega

theorem append_dropFirst_windowHash (old new : Char) (window : Text) :
    append (dropFirst (firstWeight (window.length + 1)) (windowHash (old :: window)) old) new =
      windowHash (window ++ [new]) := by
  rw [dropFirst_windowHash, windowHash_append_singleton]

/-- What the moved window shows, step by step, are the windows behind the first one. -/
theorem slide_eq (k : Nat) (text : Text) :
    slide (firstWeight (k + 1)) (windowHash (text.take (k + 1))) text (text.drop (k + 1)) =
      (List.range (text.length - (k + 1))).map fun i =>
        windowHash ((text.drop (i + 1)).take (k + 1)) := by
  induction text with
  | nil =>
    rw [List.drop_nil, List.length_nil, Nat.zero_sub]
    rfl
  | cons old rest ih =>
    rw [List.drop_succ_cons, List.take_succ_cons, List.length_cons, Nat.add_sub_add_right]
    cases hdrop : rest.drop k with
    | nil =>
      rw [Nat.sub_eq_zero_of_le (List.drop_eq_nil_iff.mp hdrop)]
      rfl
    | cons new entering =>
      have hk : k < rest.length := by
        by_contra hle
        rw [List.drop_eq_nil_of_le (Nat.not_lt.mp hle)] at hdrop
        cases hdrop
      have hlength : (rest.take k).length = k := List.length_take_of_le (Nat.le_of_lt hk)
      rw [List.drop_eq_getElem_cons hk] at hdrop
      obtain ⟨rfl, rfl⟩ := List.cons.inj hdrop
      -- The window one step further holds the right hash, so the induction goes on from there.
      have hnext : append (dropFirst (firstWeight (k + 1)) (windowHash (old :: rest.take k)) old)
          rest[k] = windowHash (rest.take (k + 1)) := by
        have := append_dropFirst_windowHash old rest[k] (rest.take k)
        rwa [hlength, List.take_append_getElem hk] at this
      rw [slide, hnext, ih, show rest.length - k = rest.length - (k + 1) + 1 by omega,
        List.range_succ_eq_map, List.map_cons, List.map_map]
      rfl

/-- The hashes of a text are those of its windows. -/
theorem hashes_eq_map_windowHash (text : Text) (width : Nat) :
    hashes text width = (windows text width).map windowHash := by
  unfold hashes windows
  split
  · rfl
  · rename_i h
    obtain ⟨k, rfl⟩ := Nat.exists_eq_add_one_of_ne_zero (not_or.mp h).1
    dsimp only
    rw [slide_eq, List.range_succ_eq_map, List.map_cons, List.map_cons, List.map_map, List.map_map]
    rfl

end SourceSimilarity.Fingerprint
