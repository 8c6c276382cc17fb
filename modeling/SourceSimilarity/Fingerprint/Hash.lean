import SourceSimilarity.Text.Basic

/-!
# Window hashes

The hash of a window is its characters read as the digits of a number in base 256, modulo a prime.
Moving the window by one character takes a bounded amount of arithmetic, so all windows of a text
cost about as much as reading it. All sums and products stay far below `2 ^ 64`: a hash is below
`2 ^ 30` and a character below `2 ^ 21`.
-/

namespace SourceSimilarity.Fingerprint

/-- What a hash is multiplied with when a character comes in. -/
def base : UInt64 :=
  256

/-- The prime below which hashes stay. -/
def modulus : UInt64 :=
  1000000007

/-- The code point of a character as a word. -/
def digit (c : Char) : UInt64 :=
  c.val.toUInt64

/-- The hash of a window with one more character at its end. -/
def append (hash : UInt64) (c : Char) : UInt64 :=
  (hash * base + digit c) % modulus

/-- The weight of the first of `width` characters. -/
def firstWeight (width : Nat) : UInt64 :=
  (List.range (width - 1)).foldl (fun weight _ => weight * base % modulus) 1

/-- The hash of a window without its first character. Adding the modulus first keeps the difference
from going below zero. -/
def dropFirst (weight hash : UInt64) (c : Char) : UInt64 :=
  (hash % modulus + modulus - digit c * weight % modulus) % modulus

/-- Move a window along: each step drops a character of `leaving` and takes in one of `entering`. -/
def slide (weight hash : UInt64) : Text → Text → List UInt64
  | old :: leaving, new :: entering =>
    let next := append (dropFirst weight hash old) new
    next :: slide weight next leaving entering
  | _, _ => []

/-- The hash of one window by itself. -/
def windowHash (window : Text) : UInt64 :=
  window.foldl append 0

/-- The hashes of all windows of `width` characters, left to right. A text that is too short has no
window, and neither does any text for width zero. -/
def hashes (text : Text) (width : Nat) : List UInt64 :=
  if width = 0 ∨ text.length < width then []
  else
    let first := windowHash (text.take width)
    first :: slide (firstWeight width) first text (text.drop width)

/-- The number that a window spells in base 256, exactly. -/
def value (window : Text) : Nat :=
  window.foldl (fun n c => n * 256 + c.toNat) 0

/-- The windows of `width` characters themselves, left to right. -/
def windows (text : Text) (width : Nat) : List Text :=
  if width = 0 ∨ text.length < width then []
  else (List.range (text.length - width + 1)).map fun i => (text.drop i).take width

/-- The width used unless another is asked for. -/
def defaultWidth : Nat :=
  5

/-- A width is cut down to the shorter of two texts. With an empty text there is nothing to cut it
down to. -/
def clampWidth (width : Nat) (left right : Text) : Nat :=
  let shorter := min left.length right.length
  if 0 < shorter ∧ shorter < width then shorter else width

end SourceSimilarity.Fingerprint
