import Mathlib
import SourceSimilarity.Batch.Ranking

/-!
# Scores as bit patterns

A ranking compares scores by a number that is worked out from their bits. That number tells all
floats apart, and where one float is less than another it is less for the first one too. So a
ranking has no ties between different scores and never puts a lower score in front.
-/

namespace SourceSimilarity.Batch

open Float.Model UnpackedFloat

/-! ## Different scores have different keys -/

theorem scoreKey_of_lt {x : Float} (h : x.toBits.toNat < 2 ^ 63) : scoreKey x = x.toBits.toNat :=
  if_pos h

theorem scoreKey_of_le {x : Float} (h : 2 ^ 63 ≤ x.toBits.toNat) :
    scoreKey x = -(x.toBits.toNat - 2 ^ 63 : Nat) - 1 :=
  if_neg (Nat.not_lt.mpr h)

theorem scoreKey_injective : Function.Injective scoreKey := by
  intro a b h
  apply Float.toBits_inj.mp
  apply UInt64.toNat_inj.mp
  rcases Nat.lt_or_ge a.toBits.toNat (2 ^ 63) with ha | ha <;>
    rcases Nat.lt_or_ge b.toBits.toNat (2 ^ 63) with hb | hb <;>
    simp only [scoreKey_of_lt, scoreKey_of_le, ha, hb] at h <;> omega

/-! ## The fields of a bit pattern -/

section Fields

variable (bits : BitVec 64)

theorem toNat_unpackMantissa :
    (@unpackMantissa Format.binary64 bits).toNat = bits.toNat % 2 ^ 52 := by
  simp [unpackMantissa]

theorem toNat_unpackExponent :
    (@unpackExponent Format.binary64 bits).toNat = bits.toNat / 2 ^ 52 % 2 ^ 11 := by
  simp [unpackExponent, Nat.shiftRight_eq_div_pow]

theorem toNat_unpackSign :
    (@unpackSign Format.binary64 bits).toNat = bits.toNat / 2 ^ 63 := by
  have hlt : bits.toNat < 2 ^ 64 := bits.isLt
  simp [unpackSign, Nat.shiftRight_eq_div_pow]
  omega

end Fields

theorem toNat_leadingOne (mantissa : BitVec 52) :
    (1#1 ++ mantissa).toNat = 2 ^ 52 + mantissa.toNat := by
  rw [BitVec.toNat_append, ← Nat.shiftLeft_add_eq_or_of_lt mantissa.isLt, Nat.shiftLeft_eq]
  rfl

/-- The number that bits without the sign bit make up, by what they stand for. For finite floats it
is one scale: the least exponent is that of the floats without a leading one, so nothing is left out
where the leading one comes in. -/
inductive Spells (s : Sign) (n : Nat) : UnpackedFloat → Prop where
  | nan : Spells s n .notANumber
  | infinity (hn : n = 2047 * 2 ^ 52) : Spells s n (.infinity s)
  | zero (hn : n = 0) : Spells s n (.zero s)
  | finite {m : Nat} {e : Int} (hpos : 0 < m) (hlt : m < 2 ^ 53) (hlow : -1074 ≤ e)
      (hhigh : e ≤ 971) (hlead : 2 ^ 52 ≤ m ∨ e = -1074)
      (hn : (n : Int) = (e + 1074) * 2 ^ 52 + m) : Spells s n (.finite s m e hpos)

/-- What a bit pattern stands for. -/
theorem spells_unpack (bits : BitVec 64) :
    Spells (Sign.ofBitVec (@unpackSign Format.binary64 bits)) (bits.toNat % 2 ^ 63)
      (UnpackedFloat.unpack Format.binary64 bits) := by
  have hmantissa := toNat_unpackMantissa bits
  have hexponent := toNat_unpackExponent bits
  have hbias : (Format.binary64.exponentBias : Int) = 1023 := rfl
  unfold UnpackedFloat.unpack
  dsimp only
  split
  -- With all exponent bits set there is no finite float.
  · rename_i hones
    have hones : bits.toNat / 2 ^ 52 % 2 ^ 11 = 2047 := hexponent.symm.trans (by rw [hones]; rfl)
    split
    · rename_i hzero
      have hzero : bits.toNat % 2 ^ 52 = 0 := hmantissa.symm.trans (by rw [hzero]; rfl)
      exact .infinity (by omega)
    · exact .nan
  · rename_i hones
    have hones : bits.toNat / 2 ^ 52 % 2 ^ 11 ≠ 2047 :=
      fun h => hones (BitVec.eq_of_toNat_eq (hexponent.trans h))
    split
    -- With none of them set the significand has no leading one.
    · rename_i hleast
      have hfield : bits.toNat / 2 ^ 52 % 2 ^ 11 = 0 := hexponent.symm.trans (by rw [hleast]; rfl)
      split
      · rename_i hzero
        have hzero : bits.toNat % 2 ^ 52 = 0 := hmantissa.symm.trans (by rw [hzero]; rfl)
        exact .zero (by omega)
      · refine .finite _ ?_ ?_ ?_ ?_ ?_ <;>
          simp only [hmantissa, hleast, hbias, BitVec.toNat_zero] <;> omega
    · rename_i hleast
      have hfield : bits.toNat / 2 ^ 52 % 2 ^ 11 ≠ 0 :=
        fun h => hleast (BitVec.eq_of_toNat_eq (hexponent.trans h))
      refine .finite _ ?_ ?_ ?_ ?_ ?_ <;>
        simp only [toNat_leadingOne, hmantissa, hexponent, hbias] <;> omega

/-! ## A lower score has a lower key -/

/-- The key of a sign and the other bits. -/
def signedKey : Sign → Nat → Int
  | .positive, n => n
  | .negative, n => -n - 1

/-- A greater exponent counts more than any significand, and with the same exponent the significand
decides. -/
theorem scale_lt {m m' : Nat} {e e' : Int} (hlt : m < 2 ^ 53) (hlow : -1074 ≤ e)
    (hlead : 2 ^ 52 ≤ m' ∨ e' = -1074) (h : e < e' ∨ e = e' ∧ m < m') :
    (e + 1074) * 2 ^ 52 + m < (e' + 1074) * 2 ^ 52 + m' := by
  omega

/-- Of two finite floats of one sign the lower one has the lower key. -/
theorem signedKey_lt_of_finite {s : Sign} {n n' m m' : Nat} {e e' : Int} {hpos : 0 < m}
    {hpos' : 0 < m'} (ha : Spells s n (.finite s m e hpos))
    (hb : Spells s n' (.finite s m' e' hpos'))
    (h : (UnpackedFloat.finite s m e hpos).compare (.finite s m' e' hpos') = some .lt) :
    signedKey s n < signedKey s n' := by
  obtain _ | _ | _ | ⟨_, hlt, hlow, -, hlead, hn⟩ := ha
  obtain _ | _ | _ | ⟨_, hlt', hlow', -, hlead', hn'⟩ := hb
  cases s with
  | positive =>
    have hlex := Ordering.then_eq_lt.mp (Option.some.inj h)
    rw [Int.compare_eq_lt, Int.compare_eq_eq, Nat.compare_eq_lt] at hlex
    have := scale_lt hlt hlow hlead' hlex
    simp only [signedKey]
    omega
  | negative =>
    have hlex := Ordering.then_eq_gt.mp (Ordering.swap_eq_lt.mp (Option.some.inj h))
    rw [Int.compare_eq_gt, Int.compare_eq_eq, Nat.compare_eq_gt] at hlex
    have := scale_lt hlt' hlow' hlead (hlex.imp_right fun h => ⟨h.1.symm, h.2⟩)
    simp only [signedKey]
    omega

section Kinds

variable {s : Sign} {n n' : Nat} {a b : UnpackedFloat}

/-- Of two floats of one sign the lower one has the lower key. -/
theorem signedKey_lt_of_sign_eq (ha : Spells s n a) (hb : Spells s n' b)
    (h : a.compare b = some .lt) : signedKey s n < signedKey s n' := by
  have hleft := ha
  have hright := hb
  cases ha <;> cases hb
  case finite.finite => exact signedKey_lt_of_finite hleft hright h
  -- Zeros are at the low end of the scale and infinities at the high end, so the kinds decide.
  all_goals
    cases s <;> first
      | simp only [signedKey]
        omega
      | cases h

theorem signedKey_negative_lt (n n' : Nat) :
    signedKey .negative n < signedKey .positive n' := by
  simp only [signedKey]
  omega

/-- A float without the sign bit is not less than one with it. Zeros count as equal. -/
theorem compare_ne_lt (ha : Spells .positive n a) (hb : Spells .negative n' b) :
    a.compare b ≠ some .lt := by
  intro h
  cases ha <;> cases hb <;> cases h

theorem signedKey_lt {s' : Sign} (ha : Spells s n a) (hb : Spells s' n' b)
    (h : a.compare b = some .lt) : signedKey s n < signedKey s' n' := by
  cases s with
  | positive =>
    cases s' with
    | positive => exact signedKey_lt_of_sign_eq ha hb h
    | negative => exact absurd h (compare_ne_lt ha hb)
  | negative =>
    cases s' with
    | positive => exact signedKey_negative_lt n n'
    | negative => exact signedKey_lt_of_sign_eq ha hb h

end Kinds

theorem ofBitVec_of_zero {bit : BitVec 1} (h : bit.toNat = 0) : Sign.ofBitVec bit = .positive :=
  if_pos (BitVec.eq_of_toNat_eq h)

theorem ofBitVec_of_one {bit : BitVec 1} (h : bit.toNat = 1) : Sign.ofBitVec bit = .negative :=
  if_neg fun hzero => by simp [hzero] at h

theorem scoreKey_eq_signedKey (x : Float) :
    scoreKey x = signedKey (Sign.ofBitVec (@unpackSign Format.binary64 x.toBits.toBitVec))
      (x.toBits.toNat % 2 ^ 63) := by
  have hsign := toNat_unpackSign x.toBits.toBitVec
  have hlt : x.toBits.toNat < 2 ^ 64 := x.toBits.toNat_lt
  rw [UInt64.toNat_toBitVec] at hsign
  rcases Nat.lt_or_ge x.toBits.toNat (2 ^ 63) with h | h
  · rw [scoreKey_of_lt h, ofBitVec_of_zero (by omega), Nat.mod_eq_of_lt h]
    rfl
  · rw [scoreKey_of_le h, ofBitVec_of_one (by omega)]
    simp only [signedKey]
    omega

/-- A score that is less than another one has the lower key. -/
theorem scoreKey_lt_of_lt {a b : Float} (h : a < b) : scoreKey a < scoreKey b := by
  rw [scoreKey_eq_signedKey, scoreKey_eq_signedKey]
  have hmodel : a.toModel < b.toModel := of_decide_eq_true h
  have hcompare : a.toModel.unpack.compare b.toModel.unpack = some .lt := eq_of_beq hmodel
  exact signedKey_lt (spells_unpack _) (spells_unpack _) hcompare

end SourceSimilarity.Batch
