import SourceSimilarity.Decimal.Binary

/-!
# Shortest decimals

The fewest digits that read back as the same float. A float stands for all reals that round to it;
of the decimals in that interval one with the fewest digits is taken, and of those the nearest.
-/

namespace SourceSimilarity.Decimal

/-- A number with a power of ten: `digits * 10 ^ exponent`. -/
structure Scaled where
  digits : Nat
  exponent : Int
deriving DecidableEq, Repr

/-- The reals that round to `significand * 2 ^ exponent`, in quarters of the last binary place. The
gap below a power of two is half as wide. -/
structure Interval where
  low : Nat
  middle : Nat
  high : Nat
  closed : Bool
  exponent : Int
deriving DecidableEq, Repr

namespace Interval

/-- Both ends round to the float if its significand is even. -/
def ofBinary (significand : Nat) (exponent : Int) : Interval where
  low := 4 * significand - (if significand = Binary.leadingBit ∧ -1074 < exponent then 1 else 2)
  middle := 4 * significand
  high := 4 * significand + 2
  closed := significand % 2 == 0
  exponent := exponent - 2

/-- What an end of the interval is multiplied with to be compared with `gridUnit`. -/
def unit (interval : Interval) (scale : Int) : Nat :=
  powNum 2 interval.exponent * powDen 10 scale

/-- What a count of `10 ^ scale` is multiplied with to be compared with `unit`. -/
def gridUnit (interval : Interval) (scale : Int) : Nat :=
  powNum 10 scale * powDen 2 interval.exponent

/-- `count * 10 ^ scale` lies in the interval. -/
def holds (interval : Interval) (scale : Int) (count : Nat) : Bool :=
  let point := count * interval.gridUnit scale
  let low := interval.low * interval.unit scale
  let high := interval.high * interval.unit scale
  if interval.closed then low ≤ point && point ≤ high else low < point && point < high

/-- The point of the grid `10 ^ scale` in the interval that is nearest to its middle. -/
def nearest? (interval : Interval) (scale : Int) : Option Nat :=
  let middle := interval.middle * interval.unit scale
  let grid := interval.gridUnit scale
  let below := middle / grid
  match interval.holds scale below, interval.holds scale (below + 1) with
  | true, true =>
    let down := middle - below * grid
    let up := (below + 1) * grid - middle
    if down < up ∨ (down = up ∧ below % 2 = 0) then some below else some (below + 1)
  | true, false => some below
  | false, true => some (below + 1)
  | false, false => none

end Interval

/-- How many digits stand before the point, or minus the zeros behind it: the least `p` from `start`
on with `num / den < 10 ^ p`. -/
def leadingPlace (num den : Nat) : Nat → Int → Int
  | 0, start => start
  | fuel + 1, start =>
    if num * powDen 10 start < den * powNum 10 start then start
    else leadingPlace num den fuel (start + 1)

/-- The number without zeros at the end of its digits. -/
def dropZeros : Nat → Scaled → Scaled
  | 0, d => d
  | fuel + 1, d =>
    if d.digits ≠ 0 ∧ d.digits % 10 = 0 then dropZeros fuel ⟨d.digits / 10, d.exponent + 1⟩ else d

/-- Try grids from `count` digits on, `fuel` of them, for a number whose first digit stands at
`place`. Seventeen digits always suffice. -/
def firstHit (interval : Interval) (place : Int) : Nat → Nat → Scaled
  | 0, count =>
    let scale := place - count
    ⟨interval.middle * interval.unit scale / interval.gridUnit scale, scale⟩
  | fuel + 1, count =>
    let scale := place - count
    match interval.nearest? scale with
    | some digits => ⟨digits, scale⟩
    | none => firstHit interval place fuel (count + 1)

/-- The shortest decimal that reads back as `significand * 2 ^ exponent`. -/
def shortest (significand : Nat) (exponent : Int) : Scaled :=
  if significand = 0 then ⟨0, 0⟩
  else
    let interval := Interval.ofBinary significand exponent
    let place := leadingPlace (significand * powNum 2 exponent) (powDen 2 exponent) 640 (-325)
    dropZeros 20 (firstHit interval place 17 1)

end SourceSimilarity.Decimal
