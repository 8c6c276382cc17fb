import SourceSimilarity.Proofs.Batch.ScoreOrder

/-!
# Quotients of counts

A score is the quotient of two counts as floats. A count below `2 ^ 52` is a float exactly, and the
quotient of two different counts is further from one than rounding reaches: it is one only if the
counts are the same, and zero only if the first one is.
-/

namespace SourceSimilarity.Fingerprint

open Float.Model UnpackedFloat

/-- A significand of 53 bits, the first of them set, and an exponent that a float can have. -/
structure IsNormal (m : Nat) (e : Int) : Prop where
  le : 2 ^ 52 ≤ m
  lt : m < 2 ^ 53
  low : -1074 ≤ e
  high : e ≤ 971

variable {m m' : Nat} {e e' : Int}

theorem IsNormal.pos (h : IsNormal m e) : 0 < m :=
  Nat.lt_of_lt_of_le (by decide) h.le

theorem IsNormal.log2_eq (h : IsNormal m e) : m.log2 = 52 :=
  (Nat.log2_eq_iff (Nat.ne_of_gt h.pos)).mpr ⟨h.le, h.lt⟩

theorem mantissaBits_eq : (Format.binary64.mantissaBits : Int) = 53 :=
  rfl

theorem minExponent_eq : Format.binary64.minExponent = -1074 :=
  rfl

theorem exponentBias_eq : (Format.binary64.exponentBias : Int) = 1023 :=
  rfl

/-! ## Packing -/

/-- The bits of an exponent. -/
def exponentField (e : Int) : BitVec 11 :=
  BitVec.ofNat 11 (e + 1075).toNat

section ExponentField

variable (hlow : -1074 ≤ e) (hhigh : e ≤ 971)
include hlow hhigh

theorem toNat_exponentField : (exponentField e).toNat = (e + 1075).toNat := by
  rw [exponentField, BitVec.toNat_ofNat, Nat.mod_eq_of_lt (by omega)]

theorem exponentField_ne_ones : exponentField e ≠ -1#11 := by
  intro heq
  have hfield := toNat_exponentField hlow hhigh
  have hones : (-1#11).toNat = 2047 := rfl
  rw [heq] at hfield
  omega

theorem exponentField_ne_zero : exponentField e ≠ 0#11 := by
  intro heq
  have hfield := toNat_exponentField hlow hhigh
  rw [heq, BitVec.toNat_zero] at hfield
  omega

end ExponentField

namespace IsNormal

theorem pack_eq (h : IsNormal m e) (s : Sign) :
    UnpackedFloat.pack Format.binary64 (.finite s m e h.pos) =
      packComponents Format.binary64 s (exponentField e) (BitVec.ofNat 52 m) := by
  have hlow := h.low
  have hhigh := h.high
  have hbias : e + (Format.binary64.exponentBias : Int) + (52 : Nat) = e + 1075 := by
    rw [exponentBias_eq]
    omega
  rw [pack.eq_4, hbias, if_neg, if_pos]
  · rfl
  · rw [h.log2_eq]
    rfl
  · have hbits : 2 ^ Format.binary64.exponentBits = 2048 := rfl
    omega

theorem toNat_leadingOne (h : IsNormal m e) : (1#1 ++ BitVec.ofNat 52 m).toNat = m := by
  have hle := h.le
  have hlt := h.lt
  rw [Batch.toNat_leadingOne, BitVec.toNat_ofNat]
  omega

/-- A float with all 53 bits of its significand is unpacked as it was packed. -/
theorem unpack_pack (h : IsNormal m e) {x : UnpackedFloat} (hx : x = .finite s m e h.pos) :
    (Float.Model.pack x).unpack = .finite s m e h.pos := by
  have hlow := h.low
  rw [hx, Float.Model.unpack, Float.Model.pack]
  dsimp only
  rw [h.pack_eq]
  unfold UnpackedFloat.unpack
  simp only [unpackExponent_packComponents, unpackMantissa_packComponents,
    unpackSign_packComponents, Sign.ofBitVec_toBitVec, exponentField_ne_ones h.low h.high,
    exponentField_ne_zero h.low h.high, toNat_exponentField h.low h.high, exponentBias_eq,
    h.toNat_leadingOne, if_false]
  congr 1
  omega

end IsNormal

/-! ## Rounding -/

/-- Shifting out bits that are not set loses nothing. -/
theorem shiftRight_mul_two_pow (m k : Nat) :
    ExtendedMantissa.mk (m * 2 ^ k) false false >>> k = ⟨m, false, false⟩ := by
  induction k generalizing m with
  | zero => rw [Nat.pow_zero, Nat.mul_one]; rfl
  | succ k ih =>
    have hstep : ExtendedMantissa.mk (m * 2 ^ (k + 1)) false false >>> (k + 1) =
        (ExtendedMantissa.mk (m * 2 * 2 ^ k) false false >>> k).shiftRightOne := by
      rw [Nat.pow_succ', ← Nat.mul_assoc]
      rfl
    rw [hstep, ih, ExtendedMantissa.shiftRightOne]
    simp

theorem mantissa_shiftRight (extended : ExtendedMantissa) (k : Nat) :
    (extended >>> k).mantissa = extended.mantissa / 2 ^ k := by
  induction k with
  | zero => rw [Nat.pow_zero, Nat.div_one]; rfl
  | succ k ih => rw [Nat.pow_succ, ← Nat.div_div_eq_div_mul, ← ih]; rfl

/-- Rounding gives a significand or the next one. -/
theorem roundedMantissa_bounds (extended : ExtendedMantissa) :
    extended.mantissa ≤ extended.roundedMantissa ∧
      extended.roundedMantissa ≤ extended.mantissa + 1 := by
  obtain ⟨m, round, sticky⟩ := extended
  cases round <;> cases sticky <;>
    simp only [ExtendedMantissa.roundedMantissa, ExtendedMantissa.accuracy,
      Accuracy.roundToNearestEven] <;> omega

theorem mantissa_ofMantissaAndAccuracy (m : Nat) (accuracy : Accuracy) :
    (ExtendedMantissa.ofMantissaAndAccuracy m accuracy).mantissa = m := by
  rcases accuracy with _ | _ | _ | _ <;> rfl

theorem log2_mul_two_pow (hpos : 0 < m) (k : Nat) : (m * 2 ^ k).log2 = m.log2 + k := by
  induction k with
  | zero => rw [Nat.pow_zero, Nat.mul_one, Nat.add_zero]
  | succ k ih =>
    have hne : m * 2 ^ k ≠ 0 := Nat.ne_of_gt (Nat.mul_pos hpos (Nat.two_pow_pos k))
    rw [Nat.pow_succ', Nat.mul_left_comm, Nat.log2_two_mul hne, ih, Nat.add_assoc]

/-- A significand of `53 + k` bits is shifted by `k`. -/
theorem shiftToTargetExponent_eq {k : Nat} (hm : m.log2 = 52 + k) (hlow : -1074 ≤ e + k)
    (accuracy : Accuracy) :
    shiftToTargetExponent Format.binary64 m e accuracy =
      (ExtendedMantissa.ofMantissaAndAccuracy m accuracy >>> k, e + k) := by
  have htarget : Format.binary64.targetExponent (totalExponent m e) = e + k := by
    rw [Format.targetExponent, totalExponent, hm, mantissaBits_eq, minExponent_eq]
    push_cast
    omega
  have hshift : (e + k - e).toNat = k := by omega
  rw [shiftToTargetExponent, htarget, shiftToExponent, hshift]

theorem shiftToTargetExponent_mul (h : IsNormal m e) (k : Nat) :
    shiftToTargetExponent Format.binary64 (m * 2 ^ k) (e - k) .exact =
      (⟨m, false, false⟩, e) := by
  have hlow := h.low
  have hlog : (m * 2 ^ k).log2 = 52 + k := by rw [log2_mul_two_pow h.pos, h.log2_eq]
  have hshift := shiftToTargetExponent_eq hlog (e := e - k) (by omega) .exact
  rwa [ExtendedMantissa.ofMantissaAndAccuracy, shiftRight_mul_two_pow, Int.sub_add_cancel]
    at hshift

theorem shiftToTargetExponent_self (h : IsNormal m e) :
    shiftToTargetExponent Format.binary64 m e .exact = (⟨m, false, false⟩, e) := by
  simpa using shiftToTargetExponent_mul h 0

/-- What a float can be exactly is not changed by rounding. -/
theorem roundWithAccuracy_mul (h : IsNormal m e) (s : Sign) (k : Nat) :
    roundWithAccuracy Format.binary64 s (m * 2 ^ k) (e - k) .exact = .finite s m e h.pos := by
  have hrounded : (ExtendedMantissa.mk m false false).roundedMantissa = m := rfl
  rw [roundWithAccuracy, shiftToTargetExponent_mul h k]
  dsimp only
  rw [hrounded, shiftToTargetExponent_self h]
  exact dif_neg (Nat.ne_of_gt h.pos)

/-- A carry out of the first bit goes into the exponent. -/
theorem exists_isNormal (hle : 2 ^ 52 ≤ m) (hlt : m ≤ 2 ^ 53) (hlow : -1074 ≤ e) (hhigh : e < 971) :
    ∃ m' i : Nat, IsNormal m' (e + i) ∧ m = m' * 2 ^ i := by
  rcases Nat.lt_or_eq_of_le hlt with hlt | rfl
  · exact ⟨m, 0, ⟨hle, hlt, by omega, by omega⟩, by omega⟩
  · exact ⟨2 ^ 52, 1, ⟨by decide, by decide, by omega, by omega⟩, by decide⟩

/-- Rounding a significand that is too long by `k` bits adds no more than one unit of the last place
that is kept. -/
theorem exists_roundWithAccuracy (s : Sign) {k : Nat} (hm : m.log2 = 52 + k) (hlow : -1074 ≤ e + k)
    (hhigh : e + k < 971) (accuracy : Accuracy) :
    ∃ (m' j : Nat) (h : IsNormal m' (e + j)),
      roundWithAccuracy Format.binary64 s m e accuracy = .finite s m' (e + j) h.pos ∧
      m' * 2 ^ j ≤ m + 2 ^ k := by
  have hne : m ≠ 0 := by
    rintro rfl
    rw [Nat.log2_zero] at hm
    omega
  obtain ⟨hle, hlt⟩ := (Nat.log2_eq_iff hne).mp hm
  have hfloor : 2 ^ 52 ≤ m / 2 ^ k ∧ m / 2 ^ k < 2 ^ 53 := by
    rw [Nat.le_div_iff_mul_le (Nat.two_pow_pos k), Nat.div_lt_iff_lt_mul (Nat.two_pow_pos k),
      ← Nat.pow_add, ← Nat.pow_add, show 53 + k = 52 + k + 1 by omega]
    exact ⟨hle, hlt⟩
  have hrounded := roundedMantissa_bounds
    (ExtendedMantissa.ofMantissaAndAccuracy m accuracy >>> k)
  rw [mantissa_shiftRight, mantissa_ofMantissaAndAccuracy] at hrounded
  rw [roundWithAccuracy, shiftToTargetExponent_eq hm hlow]
  dsimp only
  -- From here on only the bounds of the rounded significand matter, not which way it was rounded.
  generalize (ExtendedMantissa.ofMantissaAndAccuracy m accuracy >>> k).roundedMantissa = rounded
    at hrounded
  obtain ⟨m', i, h, rfl⟩ := exists_isNormal (m := rounded) (by omega) (by omega) hlow hhigh
  have hexponent : e + k + i = e + (k + i : Nat) := by omega
  have hshift := shiftToTargetExponent_mul h i
  rw [Int.add_sub_cancel] at hshift
  rw [hshift]
  refine ⟨m', k + i, hexponent ▸ h, ?_, ?_⟩
  · simp only [hexponent]
    exact dif_neg (Nat.ne_of_gt h.pos)
  · calc m' * 2 ^ (k + i) = m' * 2 ^ i * 2 ^ k := by ring
      _ ≤ (m / 2 ^ k + 1) * 2 ^ k := Nat.mul_le_mul_right _ hrounded.2
      _ = m / 2 ^ k * 2 ^ k + 2 ^ k := by ring
      _ ≤ m + 2 ^ k := Nat.add_le_add_right (Nat.div_mul_le_self _ _) _

/-! ## Counts as floats -/

/-- The significand of a count: its bits moved up to the first place. -/
def significand (n : Nat) : Nat :=
  n * 2 ^ (52 - n.log2)

section Count

variable {n : Nat}

theorem log2_le_of_lt (hpos : 0 < n) (hlt : n < 2 ^ 53) : n.log2 ≤ 52 :=
  Nat.le_of_lt_succ ((Nat.log2_lt (Nat.ne_of_gt hpos)).mpr hlt)

theorem isNormal_significand (hpos : 0 < n) (hlt : n < 2 ^ 53) :
    IsNormal (significand n) (n.log2 - 52) := by
  have hlog := log2_le_of_lt hpos hlt
  have hne : significand n ≠ 0 := Nat.ne_of_gt (Nat.mul_pos hpos (Nat.two_pow_pos _))
  have hbits : (significand n).log2 = 52 := by
    rw [significand, log2_mul_two_pow hpos, Nat.add_sub_cancel' hlog]
  obtain ⟨hle, hlt⟩ := (Nat.log2_eq_iff hne).mp hbits
  exact ⟨hle, hlt, by omega, by omega⟩

theorem ofNat_eq_finite (hpos : 0 < n) (hlt : n < 2 ^ 53) :
    UnpackedFloat.ofNat Format.binary64 n =
      .finite .positive (significand n) (n.log2 - 52) (isNormal_significand hpos hlt).pos := by
  have hlog := log2_le_of_lt hpos hlt
  have htarget : Format.binary64.targetExponent (totalExponent n 0) = n.log2 - 52 := by
    rw [Format.targetExponent, totalExponent, mantissaBits_eq, minExponent_eq]
    omega
  have hdecrease : decreaseExponent n 0 (n.log2 - 52) = (significand n, (n.log2 : Int) - 52) := by
    have hshift : (0 - ((n.log2 : Int) - 52)).toNat = 52 - n.log2 := by omega
    rw [decreaseExponent, hshift, Nat.shiftLeft_eq, significand]
    congr 1
    omega
  have hround := roundWithAccuracy_mul (isNormal_significand hpos hlt) .positive 0
  rw [UnpackedFloat.ofNat, UnpackedFloat.ofInt, UnpackedFloat.normalize,
    Int.compare_eq_gt.mpr (by omega)]
  dsimp only
  rw [Int.toNat_natCast, UnpackedFloat.round, htarget, hdecrease]
  simpa using hround

theorem unpack_toFloat (hpos : 0 < n) (hlt : n < 2 ^ 53) :
    n.toUInt64.toFloat.toModel.unpack =
      .finite .positive (significand n) (n.log2 - 52) (isNormal_significand hpos hlt).pos := by
  have hword : n.toUInt64.toNat = n := Nat.mod_eq_of_lt (by omega)
  have hmodel : n.toUInt64.toFloat.toModel =
      Float.Model.pack (UnpackedFloat.ofNat Format.binary64 n.toUInt64.toNat) := rfl
  rw [hmodel, hword]
  exact (isNormal_significand hpos hlt).unpack_pack (ofNat_eq_finite hpos hlt)

/-- A count below `2 ^ 53` is a float without rounding. The word for it is multiplied by the power
of ten of its decimal point, which is one. -/
theorem unpack_ofNat (hpos : 0 < n) (hlt : n < 2 ^ 53) :
    (Float.ofNat n).toModel.unpack =
      .finite .positive (significand n) (n.log2 - 52) (isNormal_significand hpos hlt).pos := by
  have hnormal := isNormal_significand hpos hlt
  have hone : (Float.ofBits 4607182418800017408).toModel.unpack =
      .finite .positive (2 ^ 52) (-52) (by decide) := rfl
  have hmul : (Float.ofNat n).toModel = Float.Model.pack
      (UnpackedFloat.mul Format.binary64 n.toUInt64.toFloat.toModel.unpack
        (Float.ofBits 4607182418800017408).toModel.unpack) := by
    change (Float.ofScientific n false 0).toModel = _
    rw [Float.ofScientific, dif_pos ⟨hlt, by decide⟩]
    rfl
  have hexponent : (n.log2 : Int) - 52 + -52 = n.log2 - 52 - (52 : Nat) := by omega
  rw [hmul, hone, unpack_toFloat hpos hlt, UnpackedFloat.mul, hexponent]
  exact hnormal.unpack_pack (roundWithAccuracy_mul hnormal .positive 52)

end Count

/-! ## Division -/

theorem toModel_div (a b : Float) :
    (a / b).toModel =
      Float.Model.pack (UnpackedFloat.div Format.binary64 a.toModel.unpack b.toModel.unpack) :=
  rfl

theorem divCore_eq (h : IsNormal m e) (h' : IsNormal m' e') (hlow : -1000 ≤ e - e') :
    divCore Format.binary64 m e m' e' =
      (m * 2 ^ 53 / m', e - e' - 53, accuracyOfFraction (m * 2 ^ 53 % m') m') := by
  have htarget : min (e - e') (Format.binary64.targetExponent
      (totalExponent m e - totalExponent m' e')) = e - e' - 53 := by
    rw [Format.targetExponent, totalExponent, totalExponent, h.log2_eq, h'.log2_eq,
      mantissaBits_eq, minExponent_eq]
    omega
  have hshift : (e - e' - (e - e' - 53)).toNat = 53 := by omega
  rw [divCore, htarget, hshift, Nat.shiftLeft_eq]

theorem exists_log2_div (h : IsNormal m e) (h' : IsNormal m' e') :
    ∃ k ≤ 1, (m * 2 ^ 53 / m').log2 = 52 + k := by
  have hle := h.le
  have hlt := h.lt
  have hle' := h'.le
  have hlt' := h'.lt
  have hlow : 2 ^ 52 ≤ m * 2 ^ 53 / m' := by
    rw [Nat.le_div_iff_mul_le h'.pos]
    omega
  have hhigh : m * 2 ^ 53 / m' < 2 ^ 54 := by
    rw [Nat.div_lt_iff_lt_mul h'.pos]
    omega
  have hne : m * 2 ^ 53 / m' ≠ 0 := by omega
  have hfirst := (Nat.le_log2 hne).mpr hlow
  have hlast := (Nat.log2_lt hne).mpr hhigh
  exact ⟨(m * 2 ^ 53 / m').log2 - 52, by omega, by omega⟩

section Quotient

variable {a b : Nat}

theorem log2_le_log2 (h : a ≤ b) : a.log2 ≤ b.log2 := by
  rw [Nat.log2_eq_log_two, Nat.log2_eq_log_two]
  exact Nat.log_mono_right h

theorem two_pow_mul_significand (hlog : a.log2 ≤ b.log2) (hb : b.log2 ≤ 52) :
    2 ^ (b.log2 - a.log2) * significand b = b * 2 ^ (52 - a.log2) := by
  have hexponents : b.log2 - a.log2 + (52 - b.log2) = 52 - a.log2 := by omega
  rw [significand, Nat.mul_left_comm, ← Nat.pow_add, hexponents]

/-- The quotient of a count by a greater one stays below one by more than rounding can add. -/
theorem div_significand_lt (hlt : a < b) (hb : b < 2 ^ 52) :
    significand a * 2 ^ 53 / significand b + 2 < 2 ^ 53 * 2 ^ (b.log2 - a.log2) := by
  have hlog := log2_le_log2 (Nat.le_of_lt hlt)
  have hlogb : b.log2 < 52 := (Nat.log2_lt (by omega)).mpr hb
  have hsignificand := (isNormal_significand (n := b) (by omega) (by omega)).lt
  have hplaces : 2 ≤ 2 ^ (52 - a.log2) := Nat.le_self_pow (by omega) 2
  have hfloor := Nat.div_mul_le_self (significand a * 2 ^ 53) (significand b)
  by_contra hge
  have hscaled : 2 ^ 53 * (b * 2 ^ (52 - a.log2)) ≤
      significand a * 2 ^ 53 + 2 * significand b :=
    calc 2 ^ 53 * (b * 2 ^ (52 - a.log2))
        = 2 ^ 53 * 2 ^ (b.log2 - a.log2) * significand b := by
          rw [← two_pow_mul_significand hlog (by omega), Nat.mul_assoc]
      _ ≤ (significand a * 2 ^ 53 / significand b + 2) * significand b :=
          Nat.mul_le_mul_right _ (Nat.not_lt.mp hge)
      _ ≤ significand a * 2 ^ 53 + 2 * significand b := by
          rw [Nat.add_mul]
          exact Nat.add_le_add_right hfloor _
  -- The counts differ by one at least, which is two units of the scale they are brought to.
  have hstep : (a + 1) * 2 ^ (52 - a.log2) ≤ b * 2 ^ (52 - a.log2) :=
    Nat.mul_le_mul_right _ hlt
  rw [Nat.succ_mul, ← significand] at hstep
  omega

/-- The quotient of a count by a greater one is a float below one: the last place of its significand
is worth less than `2 ^ (-52)`. -/
theorem exists_unpack_div (hpos : 0 < a) (hlt : a < b) (hb : b < 2 ^ 52) :
    ∃ (m : Nat) (e : Int) (h : IsNormal m e), e < -52 ∧
      (Float.ofNat a / Float.ofNat b).toModel.unpack = .finite .positive m e h.pos := by
  have hnormal := isNormal_significand hpos (show a < 2 ^ 53 by omega)
  have hnormal' := isNormal_significand (show 0 < b by omega) (show b < 2 ^ 53 by omega)
  have hlog := log2_le_log2 (Nat.le_of_lt hlt)
  have hlogb : b.log2 < 52 := (Nat.log2_lt (by omega)).mpr hb
  obtain ⟨k, hk, hquotient⟩ := exists_log2_div hnormal hnormal'
  obtain ⟨m, j, h, hround, hbound⟩ := exists_roundWithAccuracy .positive hquotient
    (e := (a.log2 : Int) - 52 - (b.log2 - 52) - 53) (by omega) (by omega)
    (accuracyOfFraction (significand a * 2 ^ 53 % significand b) (significand b))
  refine ⟨m, _, h, ?_, ?_⟩
  · by_contra hge
    have hone : 2 ^ 53 * 2 ^ (b.log2 - a.log2) ≤ m * 2 ^ j :=
      calc 2 ^ 53 * 2 ^ (b.log2 - a.log2) = 2 ^ 52 * 2 ^ (b.log2 - a.log2 + 1) := by ring
        _ ≤ m * 2 ^ j := Nat.mul_le_mul h.le (Nat.pow_le_pow_right (by decide) (by omega))
    have hunit : 2 ^ k ≤ 2 := Nat.pow_le_pow_right (by decide) hk
    have hbelow := div_significand_lt hlt hb
    omega
  · rw [toModel_div, unpack_ofNat hpos (by omega), unpack_ofNat (show 0 < b by omega) (by omega),
      UnpackedFloat.div, divCore_eq hnormal hnormal' (by omega)]
    exact h.unpack_pack hround

theorem ofNat_div_self (hpos : 0 < b) (hb : b < 2 ^ 53) :
    Float.ofNat b / Float.ofNat b = 1.0 := by
  have hnormal := isNormal_significand hpos hb
  have hquotient : significand b * 2 ^ 53 / significand b = 2 ^ 53 :=
    Nat.mul_div_cancel_left _ hnormal.pos
  have hmodel : (Float.ofNat b / Float.ofNat b).toModel = (1.0 : Float).toModel := by
    rw [toModel_div, unpack_ofNat hpos hb, UnpackedFloat.div, divCore_eq hnormal hnormal (by omega),
      hquotient, Nat.mul_mod_right, Int.sub_self]
    rfl
  exact congrArg Float.ofModel hmodel

theorem ofNat_zero_div (hpos : 0 < b) (hb : b < 2 ^ 53) :
    Float.ofNat 0 / Float.ofNat b = 0.0 := by
  have hzero : (Float.ofNat 0).toModel.unpack = .zero .positive := rfl
  have hmodel : (Float.ofNat 0 / Float.ofNat b).toModel = (0.0 : Float).toModel := by
    rw [toModel_div, unpack_ofNat hpos hb, hzero]
    rfl
  exact congrArg Float.ofModel hmodel

theorem ofNat_div_eq_one_iff (hle : a ≤ b) (hpos : 0 < b) (hb : b < 2 ^ 52) :
    Float.ofNat a / Float.ofNat b = 1.0 ↔ a = b := by
  constructor
  · intro hone
    have hunpack : (Float.ofNat a / Float.ofNat b).toModel.unpack =
        .finite .positive (2 ^ 52) (-52) (by decide) := by
      rw [hone]
      rfl
    by_contra hne
    rcases Nat.eq_zero_or_pos a with rfl | hposa
    · rw [ofNat_zero_div hpos (by omega)] at hunpack
      cases hunpack
    · obtain ⟨m, e, h, he, heq⟩ := exists_unpack_div hposa (Nat.lt_of_le_of_ne hle hne) hb
      rw [hunpack] at heq
      cases heq
      omega
  · rintro rfl
    exact ofNat_div_self hpos (by omega)

theorem ofNat_div_eq_zero_iff (hle : a ≤ b) (hpos : 0 < b) (hb : b < 2 ^ 52) :
    Float.ofNat a / Float.ofNat b = 0.0 ↔ a = 0 := by
  constructor
  · intro hzero
    have hunpack : (Float.ofNat a / Float.ofNat b).toModel.unpack = .zero .positive := by
      rw [hzero]
      rfl
    by_contra hne
    rcases Nat.lt_or_eq_of_le hle with hlt | rfl
    · obtain ⟨m, e, h, -, heq⟩ := exists_unpack_div (Nat.pos_of_ne_zero hne) hlt hb
      rw [hunpack] at heq
      cases heq
    · rw [ofNat_div_self hpos (by omega)] at hunpack
      cases hunpack
  · rintro rfl
    exact ofNat_zero_div hpos (by omega)

end Quotient

end SourceSimilarity.Fingerprint
