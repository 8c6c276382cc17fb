import SourceSimilarity.Text.Basic

/-!
# Reading decimals

Numbers as people write them on a command line or in a settings file.
-/

namespace SourceSimilarity.Decimal

/-- The value of a string of ASCII digits. -/
def digitsValue (digits : Text) : Nat :=
  digits.foldl (fun value c => value * 10 + (c.toNat - '0'.toNat)) 0

/-- A text of at least one ASCII digit and nothing else. -/
def isDigits (text : Text) : Bool :=
  !text.isEmpty && text.all Char.isDigit

/-- An optional sign in front: whether it is a minus, and the rest. -/
def takeSign : Text → Bool × Text
  | '-' :: rest => (true, rest)
  | '+' :: rest => (false, rest)
  | text => (false, text)

/-- A natural number, with an optional plus, of at most `limit`. -/
def natural? (limit : Nat) (text : Text) : Option Nat :=
  let digits := match text with
    | '+' :: rest => rest
    | _ => text
  if isDigits digits ∧ digitsValue digits ≤ limit then some (digitsValue digits) else none

/-- The float nearest to `digits * 10 ^ exponent`. Numbers beyond all floats are settled first, so
that no huge power is worked out. -/
def nearestFloat (digits : Nat) (exponent : Int) : Float :=
  let place := exponent + ((Nat.toDigits 10 digits).length : Int)
  if digits = 0 ∨ place < -330 then 0.0
  else if 310 < place then 1.0 / 0.0
  else Float.ofScientific digits (decide (exponent < 0)) exponent.natAbs

/-- A float of the given sign. -/
def withSign (negative : Bool) (x : Float) : Float :=
  if negative then -x else x

/-- The power of ten after an `e`: an optional sign and digits, and nothing behind them. -/
def exponent? (text : Text) : Option Int :=
  let (negative, digits) := takeSign text
  if isDigits digits then
    some (if negative then -(digitsValue digits : Int) else digitsValue digits)
  else none

/-- Digits with an optional point among or around them, and an optional power of ten. -/
def unsignedFloat? (text : Text) : Option Float :=
  let whole := text.takeWhile Char.isDigit
  let afterWhole := text.dropWhile Char.isDigit
  let (fraction, rest) := match afterWhole with
    | '.' :: more => (more.takeWhile Char.isDigit, more.dropWhile Char.isDigit)
    | _ => ([], afterWhole)
  if whole.isEmpty ∧ fraction.isEmpty then none
  else
    let digits := digitsValue (whole ++ fraction)
    match rest with
    | [] => some (nearestFloat digits (-(fraction.length : Int)))
    | c :: power =>
      if c = 'e' ∨ c = 'E' then
        (exponent? power).map fun e => nearestFloat digits (e - (fraction.length : Int))
      else none

/-- A float: a number in decimal notation, or an infinity or not-a-number by name in any case, with
an optional sign. -/
def float? (text : Text) : Option Float :=
  let (negative, rest) := takeSign text
  let name := String.ofList (rest.map Char.toLower)
  let magnitude :=
    if name = "inf" ∨ name = "infinity" then some (1.0 / 0.0)
    else if name = "nan" then some (0.0 / 0.0)
    else unsignedFloat? rest
  magnitude.map (withSign negative)

end SourceSimilarity.Decimal
