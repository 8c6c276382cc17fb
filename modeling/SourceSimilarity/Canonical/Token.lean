import Mathlib.Data.List.Chain
import SourceSimilarity.Text.Blank
import SourceSimilarity.Canonical.Identifier

/-!
# Tokens of a canonical text

What a canonical text is made of, and how its tokens may stand side by side. The tokens can be read
back off the text: words are maximal, blanks stand alone, and no two marks begin a comment.
-/

namespace SourceSimilarity.Canonical

open Text

/-- `b` may follow `a` in code: the two are no comment mark. -/
def Unmarked (a b : Char) : Prop :=
  ¬ (a = '/' ∧ (b = '/' ∨ b = '*'))

/-- A token of a canonical text. A number is a word like any other. -/
inductive Token where
  | string
  | character
  | word (spelling : Text)
  | blank (c : Char)
  | mark (c : Char)
deriving DecidableEq, Repr

namespace Token

/-- What a token shows. -/
def text : Token → Text
  | string => Literal.string.text
  | character => Literal.character.text
  | word spelling => spelling
  | blank c => [c]
  | mark c => [c]

/-- The token is a blank. -/
def isBlank : Token → Bool
  | blank _ => true
  | _ => false

/-- The token of a character that belongs to no word. -/
def ofChar (c : Char) : Token :=
  if Text.isBlank c then blank c else mark c

/-- The word stands for a number, stands for a name, or is reserved. -/
def IsCanonicalWord (reserved : ReservedWords) (word : Text) : Prop :=
  word = Literal.number.text ∨ word = placeholder ∨ ∃ entry ∈ reserved.words, word = entry.toList

/-- The token is one that a canonical text may show. -/
def Valid (reserved : ReservedWords) : Token → Prop
  | string => True
  | character => True
  | word spelling => spelling ≠ [] ∧ IsCanonicalWord reserved spelling
  | blank c => c = ' ' ∨ c = '\n'
  | mark c => isWord c = false ∧ Text.isBlank c = false ∧ isQuote c = false

/-- Two tokens may stand side by side: not two words, not two blanks, and no comment mark. -/
def Apart : Token → Token → Prop
  | word _, word _ => False
  | blank _, blank _ => False
  | mark c, mark d => Unmarked c d
  | _, _ => True

end Token

/-- The tokens make up a canonical text. -/
structure IsCanonical (reserved : ReservedWords) (tokens : List Token) : Prop where
  valid : ∀ token ∈ tokens, token.Valid reserved
  apart : tokens.IsChain Token.Apart
  head_not_blank : ∀ token ∈ tokens.head?, token.isBlank = false
  last_not_blank : ∀ token ∈ tokens.getLast?, token.isBlank = false

end SourceSimilarity.Canonical
