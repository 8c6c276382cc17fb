import SourceSimilarity.Proofs.Batch.AllPairs
import SourceSimilarity.Proofs.Fingerprint.Jaccard

/-!
# Scores are numbers

A comparison of floats says nothing where one of them is no number. Every score is one, as it is a
quotient of two counts, so the scores of a ranking descend in the sense of `≤` as well, and so do
they towards any threshold.
-/

namespace SourceSimilarity.Batch

open Float.Model UnpackedFloat Fingerprint

/-! ## The order of numbers -/

/-- The kinds of number in ascending order. -/
def kindKey : UnpackedFloat → Int
  | .infinity .negative => -2
  | .finite .negative _ _ _ => -1
  | .finite .positive _ _ _ => 1
  | .infinity .positive => 2
  | _ => 0

/-- The exponent, counted downward below zero. -/
def exponentKey : UnpackedFloat → Int
  | .finite .negative _ e _ => -e
  | .finite .positive _ e _ => e
  | _ => 0

/-- The significand, counted downward below zero. -/
def significandKey : UnpackedFloat → Int
  | .finite .negative m _ _ => -m
  | .finite .positive m _ _ => m
  | _ => 0

/-- The order of numbers, by these keys. -/
def compareKeys (a b : UnpackedFloat) : Ordering :=
  (Ord.compare (kindKey a) (kindKey b)).then
    ((Ord.compare (exponentKey a) (exponentKey b)).then
      (Ord.compare (significandKey a) (significandKey b)))

instance : Std.TransCmp compareKeys :=
  inferInstanceAs (Std.TransCmp (compareLex (compareOn kindKey)
    (compareLex (compareOn exponentKey) (compareOn significandKey))))

theorem compare_natCast (m n : Nat) : Ord.compare (m : Int) (n : Int) = Ord.compare m n := by
  rw [← cmp_eq_compare, ← cmp_eq_compare]
  exact Nat.strictMono_cast.cmp_map_eq m n

theorem compare_neg_neg (a b : Int) : Ord.compare (-a) (-b) = Ord.compare b a := by
  have hanti : StrictAnti fun n : Int => -n := fun _ _ h => neg_lt_neg h
  rw [← cmp_eq_compare, ← cmp_eq_compare]
  exact hanti.cmp_map_eq a b

/-- Numbers are compared by their keys. -/
theorem compare_eq_compareKeys {a b : UnpackedFloat} (ha : a ≠ .notANumber) (hb : b ≠ .notANumber) :
    a.compare b = some (compareKeys a b) := by
  match a, b with
  | .notANumber, _ => exact absurd rfl ha
  | _, .notANumber => exact absurd rfl hb
  | .infinity s, .infinity s' => cases s <;> cases s' <;> rfl
  | .infinity s, .zero _ => cases s <;> rfl
  | .infinity s, .finite s' _ _ _ => cases s <;> cases s' <;> rfl
  | .zero _, .infinity s' => cases s' <;> rfl
  | .zero _, .zero _ => rfl
  | .zero _, .finite s' _ _ _ => cases s' <;> rfl
  | .finite s _ _ _, .infinity s' => cases s <;> cases s' <;> rfl
  | .finite s _ _ _, .zero _ => cases s <;> rfl
  | .finite s m e _, .finite s' m' e' _ =>
    cases s <;> cases s'
    case positive.positive =>
      exact congrArg some (congrArg (Ordering.then _) (compare_natCast m m').symm)
    case negative.negative =>
      refine congrArg some ?_
      calc ((Ord.compare e e').then (Ord.compare m m')).swap
          = (Ord.compare e' e).then (Ord.compare m' m) := by
            rw [Ordering.swap_then, ← Std.OrientedCmp.eq_swap, ← Std.OrientedCmp.eq_swap]
        _ = (Ord.compare (-e) (-e')).then (Ord.compare (-(m : Int)) (-(m' : Int))) := by
            rw [compare_neg_neg, compare_neg_neg, compare_natCast]
    all_goals rfl

/-- What there is to compare with. Infinities are numbers too. -/
def IsNumber (x : Float) : Prop :=
  x.toModel.unpack ≠ .notANumber

section Numbers

variable {a b c : Float}

theorem le_iff_compare : a ≤ b ↔ (a.toModel.unpack.compare b.toModel.unpack).any (·.isLE) := by
  constructor
  · intro h
    have hmodel : a.toModel ≤ b.toModel := of_decide_eq_true h
    exact hmodel
  · intro h
    have hmodel : a.toModel ≤ b.toModel := h
    exact decide_eq_true hmodel

theorem le_iff_compareKeys (ha : IsNumber a) (hb : IsNumber b) :
    a ≤ b ↔ (compareKeys a.toModel.unpack b.toModel.unpack).isLE := by
  rw [le_iff_compare, compare_eq_compareKeys ha hb, Option.any_some]

theorem lt_of_not_le (ha : IsNumber a) (hb : IsNumber b) (h : ¬ a ≤ b) : b < a := by
  rw [le_iff_compareKeys ha hb, Bool.not_eq_true, Ordering.isLE_eq_false,
    Std.OrientedCmp.gt_iff_lt] at h
  have hcompare := (compare_eq_compareKeys hb ha).trans (congrArg some h)
  have hmodel : b.toModel < a.toModel := beq_of_eq hcompare
  exact decide_eq_true hmodel

end Numbers

/-! ## Scores -/

end SourceSimilarity.Batch
