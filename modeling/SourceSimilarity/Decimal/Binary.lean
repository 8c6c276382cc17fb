/-!
# Floats as binary fractions

A float is a sign and a magnitude. A finite magnitude is exactly `significand * 2 ^ exponent`, and
all decimal texts are worked out from that in natural numbers.
-/

namespace SourceSimilarity.Decimal

/-- A magnitude: not a number, infinite, or a binary fraction. -/
inductive Magnitude where
  | nan
  | infinite
  | finite (significand : Nat) (exponent : Int)
deriving DecidableEq, Repr

/-- A magnitude with a sign. -/
structure Binary where
  negative : Bool
  magnitude : Magnitude
deriving DecidableEq, Repr

namespace Binary

/-- The bit of the sign: two to the power of 63. -/
def signBit : Nat :=
  0x8000000000000000

/-- The leading one that most significands imply: two to the power of 52. -/
def leadingBit : Nat :=
  0x10000000000000

/-- The fields of a bit pattern: one bit of sign, eleven of exponent, fifty-two of significand. A
significand has an implied leading one unless the exponent field is zero. -/
def ofBits (bits : UInt64) : Binary :=
  let fraction : Nat := bits.toNat % leadingBit
  let field : Nat := bits.toNat % signBit / leadingBit
  { negative := signBit ≤ bits.toNat
    magnitude :=
      if field = 2047 then (if fraction = 0 then .infinite else .nan)
      else if field = 0 then .finite fraction (-1074)
      else .finite (fraction + leadingBit) ((field : Int) - 1075) }

/-- The sign and magnitude of a float. -/
def ofFloat (x : Float) : Binary :=
  ofBits x.toBits

end Binary

/-- The numerator of `base ^ exponent` as a quotient of natural numbers. -/
def powNum (base : Nat) (exponent : Int) : Nat :=
  base.pow exponent.toNat

/-- The denominator of `base ^ exponent` as a quotient of natural numbers. -/
def powDen (base : Nat) (exponent : Int) : Nat :=
  base.pow (-exponent).toNat

end SourceSimilarity.Decimal
