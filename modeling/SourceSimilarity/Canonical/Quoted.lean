import SourceSimilarity.Text.Basic

/-!
# Quoted literals

Where a quoted literal ends is decided here, once, for everybody who has to step over one: the
comment stripper must not see comment marks inside a literal, and the literal pass must not see
quotes inside a comment.
-/

namespace SourceSimilarity.Canonical

/-- Both quotes open a literal. -/
def isQuote (c : Char) : Bool :=
  c == '"' || c == '\''

/-- What follows the quote that closes a literal, if one does. A backslash takes the next character
with it, so an escaped quote never closes. -/
def afterQuote? (quote : Char) : Text → Option Text
  | [] => none
  | ['\\'] => none
  | '\\' :: _ :: rest => afterQuote? quote rest
  | c :: rest => if c = quote then some rest else afterQuote? quote rest

/-- The inside of a literal with its closing quote, or all that is left if nothing closes it. -/
def throughQuote (quote : Char) : Text → Text
  | [] => []
  | ['\\'] => ['\\']
  | '\\' :: c :: rest => '\\' :: c :: throughQuote quote rest
  | c :: rest => if c = quote then [c] else c :: throughQuote quote rest

/-- What is left to read after a literal: nothing, if the literal never closes. -/
def afterQuote (quote : Char) (text : Text) : Text :=
  (afterQuote? quote text).getD []

/-- A literal and what follows it are the whole text. -/
theorem throughQuote_append_afterQuote (quote : Char) (text : Text) :
    throughQuote quote text ++ afterQuote quote text = text := by
  unfold afterQuote
  fun_induction throughQuote quote text with
  | case1 => simp [afterQuote?]
  | case2 => simp [afterQuote?]
  | case3 c rest ih => simpa [afterQuote?] using ih
  | case4 rest h1 h2 => simp [afterQuote?]
  | case5 c rest h1 h2 hc ih => simpa [afterQuote?, hc] using ih

/-- A closed literal is not empty, so reading gets on. -/
theorem length_afterQuote?_lt {quote : Char} {text rest : Text}
    (h : afterQuote? quote text = some rest) : rest.length < text.length := by
  fun_induction afterQuote? quote text with
  | case1 => simp at h
  | case2 => simp at h
  | case3 _ tail ih => have := ih h; simp only [List.length_cons]; omega
  | case4 => obtain rfl := Option.some.inj h; simp
  | case5 c tail _ _ _ ih => have := ih h; simp only [List.length_cons]; omega

theorem length_afterQuote_le (quote : Char) (text : Text) :
    (afterQuote quote text).length ≤ text.length := by
  have := congrArg List.length (throughQuote_append_afterQuote quote text)
  rw [List.length_append] at this
  omega

end SourceSimilarity.Canonical
