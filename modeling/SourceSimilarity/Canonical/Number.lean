import SourceSimilarity.Text.Word
import SourceSimilarity.Canonical.Fragment

/-!
# Numbers

A number starts at an ASCII digit that does not go on a word. It takes the digits, one fraction, and
the word characters glued to its end, so that suffixes, exponents and other bases go with it and
what follows never fuses with its token.
-/

namespace SourceSimilarity.Canonical

open Text

/-- Code between numbers, or a number as it was spelled. -/
inductive Piece where
  | code (text : Text)
  | number (spelling : Text)
deriving DecidableEq, Repr

/-- What follows an optional fraction: a point counts only with a digit directly after it. -/
def afterFraction : Text → Text
  | '.' :: d :: rest => if d.isDigit then rest.dropWhile Char.isDigit else '.' :: d :: rest
  | text => text

/-- What follows the number at the front of a text. -/
def afterNumber (text : Text) : Text :=
  (afterFraction (text.dropWhile Char.isDigit)).dropWhile isWord

/-- The fraction at the front of a text, if there is one. -/
def fractionAt : Text → Text
  | '.' :: d :: rest => if d.isDigit then '.' :: d :: rest.takeWhile Char.isDigit else []
  | _ => []

/-- The number at the front of a text. -/
def numberAt (text : Text) : Text :=
  let behind := text.dropWhile Char.isDigit
  text.takeWhile Char.isDigit ++ (fractionAt behind ++ (afterFraction behind).takeWhile isWord)

theorem fractionAt_append_afterFraction (text : Text) :
    fractionAt text ++ afterFraction text = text := by
  unfold fractionAt afterFraction
  split
  · split
    · simp only [List.cons_append, List.takeWhile_append_dropWhile]
    · rfl
  · rfl

/-- A number and what follows it are the whole text. -/
theorem numberAt_append_afterNumber (text : Text) : numberAt text ++ afterNumber text = text := by
  simp only [numberAt, afterNumber, List.append_assoc, List.takeWhile_append_dropWhile,
    fractionAt_append_afterFraction]

theorem afterFraction_suffix (text : Text) : afterFraction text <:+ text :=
  ⟨fractionAt text, fractionAt_append_afterFraction text⟩

/-- A number that starts with a digit takes at least that digit. -/
theorem length_afterNumber_le {c : Char} (rest : Text) (h : c.isDigit) :
    (afterNumber (c :: rest)).length ≤ rest.length := by
  rw [afterNumber, List.dropWhile_cons_of_pos h]
  exact ((List.dropWhile_suffix _).trans
    ((afterFraction_suffix _).trans (List.dropWhile_suffix _))).length_le

namespace Piece

/-- Put one character of code in front, joining the code that follows. -/
def consCode (c : Char) : List Piece → List Piece
  | code text :: rest => code (c :: text) :: rest
  | pieces => code [c] :: pieces

/-- Split code that stands after a word character (`inWord`) or after anything else. -/
def ofCodeFrom (inWord : Bool) : Text → List Piece
  | [] => []
  | c :: rest =>
    if _h : c.isDigit ∧ inWord = false then
      number (numberAt (c :: rest)) :: ofCodeFrom false (afterNumber (c :: rest))
    else consCode c (ofCodeFrom (isWord c) rest)
termination_by text => text.length
decreasing_by
  · have := length_afterNumber_le rest _h.1; simp only [List.length_cons]; omega
  · simp only [List.length_cons]; omega

/-- Split code at its numbers. -/
def ofCode (text : Text) : List Piece :=
  ofCodeFrom false text

/-- The text that a piece was cut from. -/
def source : Piece → Text
  | code text => text
  | number spelling => spelling

/-- A number keeps no more than the fact that it is one. -/
def toFragment : Piece → Fragment
  | code text => .code text
  | number _ => .literal .number

end Piece

namespace Fragment

/-- The fragment with its numbers cut out. -/
def cutNumbers : Fragment → List Fragment
  | code text => (Piece.ofCode text).map Piece.toFragment
  | literal kind => [literal kind]

end Fragment

end SourceSimilarity.Canonical
