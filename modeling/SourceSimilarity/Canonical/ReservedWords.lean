import SourceSimilarity.Text.Case

/-!
# Reserved words

Words that keep their spelling in a canonical text. The table is sorted and in lower case, and a
word is looked up whatever its case.
-/

namespace SourceSimilarity.Canonical

/-- A table of words in lower case, sorted ascending. -/
structure ReservedWords where
  words : Array String
deriving Repr

namespace ReservedWords

/-- Find a word among the entries from `low` up to `high`, halving the range at each step. -/
def searchBetween (table : ReservedWords) (word : String) (low high : Nat) : Option String :=
  if low < high then
    let middle := low + (high - low) / 2
    match table.words[middle]? with
    | none => none
    | some entry =>
      if entry < word then table.searchBetween word (middle + 1) high
      else if word < entry then table.searchBetween word low middle
      else some entry
  else none
termination_by high - low
decreasing_by all_goals omega

/-- Find a word that is spelled as in the table. -/
def search (table : ReservedWords) (word : String) : Option String :=
  table.searchBetween word 0 table.words.size

/-- Find a word in any case, and give the spelling of the table. A word without a capital letter is
looked up as it stands. -/
def lookup (table : ReservedWords) (word : String) : Option String :=
  if word.toList.any Text.isUpper then table.search (lowerString word) else table.search word

/-- The word is reserved, in whatever case. -/
def contains (table : ReservedWords) (word : String) : Bool :=
  (table.lookup word).isSome

/-- How many words are reserved. -/
def size (table : ReservedWords) : Nat :=
  table.words.size

/-- No word is reserved. -/
def isEmpty (table : ReservedWords) : Bool :=
  table.words.isEmpty

/-- Keywords of control flow, types and visibility of the languages in common use, with the names of
their truth values and null values. -/
def builtin : ReservedWords where
  words := #[
    "abstract", "and", "as", "assert", "async", "auto", "await", "bool", "boolean", "break",
    "byte", "case", "catch", "char", "class", "const", "continue", "debugger", "def", "default",
    "del", "delete", "do", "double", "elif", "else", "enum", "except", "explicit", "export",
    "extends", "extern", "false", "final", "finally", "float", "for", "friend", "from",
    "function", "global", "goto", "if", "implements", "import", "in", "inline", "instanceof",
    "int", "interface", "is", "lambda", "let", "long", "namespace", "native", "new", "none",
    "nonlocal", "not", "null", "nullptr", "of", "operator", "or", "package", "pass", "private",
    "protected", "public", "raise", "register", "return", "short", "signed", "sizeof", "static",
    "struct", "super", "switch", "synchronized", "template", "this", "throw", "throws",
    "transient", "true", "try", "typedef", "typename", "typeof", "undefined", "union",
    "unsigned", "using", "var", "virtual", "void", "volatile", "while", "with", "yield"]

end ReservedWords

end SourceSimilarity.Canonical
