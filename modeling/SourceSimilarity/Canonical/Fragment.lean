import SourceSimilarity.Canonical.Quoted

/-!
# Fragments

A text whose literals have been cut out: code that is still to be worked on, and tokens that stand
for literals and are final. Code fragments are never empty and never side by side.
-/

namespace SourceSimilarity.Canonical

/-- The kinds of literal, each of which all look the same in a canonical text. -/
inductive Literal where
  | string
  | character
  | number
deriving DecidableEq, Repr

namespace Literal

/-- What a canonical text shows for a literal. -/
def text : Literal → Text
  | string => ['"', 's', 't', 'r', '"']
  | character => ['\'', 'c', '\'']
  | number => ['n', 'u', 'm']

/-- The kind of literal that a quote opens. -/
def ofQuote (quote : Char) : Literal :=
  if quote = '"' then string else character

end Literal

/-- A stretch of code or the token of a literal. -/
inductive Fragment where
  | code (text : Text)
  | literal (kind : Literal)
deriving DecidableEq, Repr

namespace Fragment

/-- Put one character of code in front, joining the code that follows. -/
def consCode (c : Char) : List Fragment → List Fragment
  | code text :: rest => code (c :: text) :: rest
  | fragments => code [c] :: fragments

/-- Cut the quoted literals out of a text that has no comments. A literal that never closes takes
the rest of the text with it. -/
def cutLiterals : Text → List Fragment
  | [] => []
  | c :: rest =>
    if isQuote c then
      match _h : afterQuote? c rest with
      | some after => literal (Literal.ofQuote c) :: cutLiterals after
      | none => []
    else consCode c (cutLiterals rest)
termination_by text => text.length
decreasing_by
  · have := length_afterQuote?_lt _h; simp only [List.length_cons]; omega
  · simp only [List.length_cons]; omega

/-- Change the code and leave the tokens alone. -/
def mapCode (f : Text → Text) : Fragment → Fragment
  | code text => code (f text)
  | literal kind => literal kind

/-- What a fragment shows. -/
def text : Fragment → Text
  | code text => text
  | literal kind => kind.text

end Fragment

end SourceSimilarity.Canonical
