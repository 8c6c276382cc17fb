import SourceSimilarity.Canonical.Quoted

/-!
# Comments

A line comment goes without a trace, its newline stays. A block comment leaves one space, so that
what stood on its two sides stays apart. Either kind, left open, runs to the end of the text.
-/

namespace SourceSimilarity.Canonical

/-- What follows the first end mark of a block comment. -/
def afterBlock : Text → Text
  | [] => []
  | '*' :: '/' :: rest => rest
  | _ :: rest => afterBlock rest

theorem length_afterBlock_le (text : Text) : (afterBlock text).length ≤ text.length := by
  fun_induction afterBlock text with
  | case1 => simp
  | case2 rest => simp only [List.length_cons]; omega
  | case3 c rest _ ih => simp only [List.length_cons]; omega

/-- The newline that ends a line comment and all behind it. -/
def afterLine (text : Text) : Text :=
  text.dropWhile (· != '\n')

theorem length_afterLine_le (text : Text) : (afterLine text).length ≤ text.length :=
  (List.dropWhile_sublist _).length_le

/-- The text without its comments. Literals are copied as they stand, so a comment mark in one of
them is no comment. -/
def stripComments : Text → Text
  | [] => []
  | '/' :: '/' :: rest => stripComments (afterLine rest)
  | '/' :: '*' :: rest => ' ' :: stripComments (afterBlock rest)
  | c :: rest =>
    if isQuote c then c :: (throughQuote c rest ++ stripComments (afterQuote c rest))
    else c :: stripComments rest
termination_by text => text.length
decreasing_by
  · have := length_afterLine_le rest; simp only [List.length_cons]; omega
  · have := length_afterBlock_le rest; simp only [List.length_cons]; omega
  · have := length_afterQuote_le c rest; simp only [List.length_cons]; omega
  · simp only [List.length_cons]; omega

end SourceSimilarity.Canonical
