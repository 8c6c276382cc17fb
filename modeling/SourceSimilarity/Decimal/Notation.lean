import SourceSimilarity.Decimal.Shortest

/-!
# Decimal notations

How numbers are written: with a fixed number of places, with as many as are needed and never an
exponent, or with an exponent where a positional text would be long.
-/

namespace SourceSimilarity.Decimal

/-- The digits of a natural number. -/
def digitText (n : Nat) : String :=
  String.ofList (Nat.toDigits 10 n)

/-- A string of zeros. -/
def zeros (count : Nat) : String :=
  String.ofList (List.replicate count '0')

/-- A minus sign where one is due. -/
def signText (negative : Bool) : String :=
  if negative then "-" else ""

/-! ## Fixed places -/

/-- `num / den` rounded to the nearest integer, a tie to the even one. -/
def roundHalfEven (num den : Nat) : Nat :=
  let down := num / den
  let rest := num % den
  if 2 * rest < den then down
  else if den < 2 * rest then down + 1
  else if down % 2 = 0 then down else down + 1

/-- A count of `10 ^ -places` with a point before the last `places` digits. -/
def placeText (places count : Nat) : String :=
  if places = 0 then digitText count
  else
    let fraction := digitText (count % powNum 10 places)
    digitText (count / powNum 10 places) ++ "." ++ zeros (places - fraction.length) ++ fraction

/-- A float with `places` digits after the point, rounded from its exact value. -/
def fixed (places : Nat) (x : Float) : String :=
  let binary := Binary.ofFloat x
  match binary.magnitude with
  | .nan => "NaN"
  | .infinite => signText binary.negative ++ "inf"
  | .finite significand exponent =>
    signText binary.negative ++ placeText places
      (roundHalfEven (significand * powNum 2 exponent * powNum 10 places) (powDen 2 exponent))

/-! ## As many digits as needed -/

/-- Digits and exponent written positionally; `point` says whether an integer shows a `.0`. -/
def positional (point : Bool) (d : Scaled) : String :=
  let digits := digitText d.digits
  let tail := if point then ".0" else ""
  if d.exponent ≥ 0 then
    (if d.digits = 0 then "0" else digits ++ zeros d.exponent.toNat) ++ tail
  else
    let behind := (-d.exponent).toNat
    if digits.length ≤ behind then "0." ++ zeros (behind - digits.length) ++ digits
    else
      let whole := digits.toList.take (digits.length - behind)
      let fraction := digits.toList.drop (digits.length - behind)
      String.ofList (whole ++ '.' :: fraction)

/-- One digit before the point, all others behind it, and the power of ten with its sign. -/
def scientific (d : Scaled) : String :=
  let digits := (digitText d.digits).toList
  let power := d.exponent + (digits.length - 1 : Nat)
  let tail := "e" ++ (if power < 0 then "-" else "+") ++ digitText power.natAbs
  match digits with
  | first :: second :: rest => String.ofList (first :: '.' :: second :: rest) ++ tail
  | _ => String.ofList digits ++ tail

/-- The shortest text of a float without an exponent, however long it gets. -/
def plain (x : Float) : String :=
  let binary := Binary.ofFloat x
  match binary.magnitude with
  | .nan => "NaN"
  | .infinite => signText binary.negative ++ "inf"
  | .finite significand exponent =>
    signText binary.negative ++ positional false (shortest significand exponent)

/-- The shortest text of a float as a JSON number: positional from `1e-5` up to `1e16`, always with
a point or an exponent. JSON has no text for infinities and what is not a number. -/
def jsonNumber? (x : Float) : Option String :=
  let binary := Binary.ofFloat x
  match binary.magnitude with
  | .finite significand exponent =>
    let d := shortest significand exponent
    let place := d.exponent + ((digitText d.digits).length : Int)
    let text := if -5 < place ∧ place ≤ 16 then positional true d else scientific d
    some (signText binary.negative ++ text)
  | _ => none

end SourceSimilarity.Decimal
