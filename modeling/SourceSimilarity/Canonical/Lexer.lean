import SourceSimilarity.Canonical.Fragment

/-!
# Reading fragments in one pass

Comments and literals seen by one reader that goes once over the text and knows at each character
whether it is in code, in a comment or in a literal. It needs no agreement between two passes on
where a literal ends.
-/

namespace SourceSimilarity.Canonical

/-- Where the reader is. -/
inductive Mode where
  | code
  | lineComment
  | blockComment
  | quoted (quote : Char)
deriving DecidableEq, Repr

namespace Mode

/-- The fragments of a text read from a mode on. A block comment gives its space when it opens, a
literal its token when it closes. -/
@[simp] def read : Mode → Text → List Fragment
  | _, [] => []
  | code, '/' :: '/' :: rest => lineComment.read rest
  | code, '/' :: '*' :: rest => Fragment.consCode ' ' (blockComment.read rest)
  | code, c :: rest =>
    if isQuote c then (quoted c).read rest else Fragment.consCode c (code.read rest)
  | lineComment, '\n' :: rest => Fragment.consCode '\n' (code.read rest)
  | lineComment, _ :: rest => lineComment.read rest
  | blockComment, '*' :: '/' :: rest => code.read rest
  | blockComment, _ :: rest => blockComment.read rest
  | quoted quote, '\\' :: _ :: rest => (quoted quote).read rest
  | quoted quote, c :: rest =>
    if c = quote then .literal (Literal.ofQuote quote) :: code.read rest
    else (quoted quote).read rest

/-- The mode in which a text leaves the reader that starts it in a mode. -/
@[simp] def after : Mode → Text → Mode
  | mode, [] => mode
  | code, '/' :: '/' :: rest => lineComment.after rest
  | code, '/' :: '*' :: rest => blockComment.after rest
  | code, c :: rest => if isQuote c then (quoted c).after rest else code.after rest
  | lineComment, '\n' :: rest => code.after rest
  | lineComment, _ :: rest => lineComment.after rest
  | blockComment, '*' :: '/' :: rest => code.after rest
  | blockComment, _ :: rest => blockComment.after rest
  | quoted quote, '\\' :: _ :: rest => (quoted quote).after rest
  | quoted quote, c :: rest => if c = quote then code.after rest else (quoted quote).after rest

end Mode

end SourceSimilarity.Canonical
