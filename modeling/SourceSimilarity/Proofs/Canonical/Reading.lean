import SourceSimilarity.Canonical.Comment
import SourceSimilarity.Canonical.Lexer
import SourceSimilarity.Canonical.Token

/-!
# Two passes and one reader

Stripping the comments and then cutting the literals reads a text twice; the reader with modes goes
over it once. The two give the same fragments, since both passes step over a literal in the same
way. What holds of every code fragment is then read off the one reader.
-/

namespace SourceSimilarity.Canonical

/-! ## Literals -/

/-- A text that fits neither pattern for a backslash does not start with one. -/
theorem ne_backslash {c : Char} {rest : Text} (h1 : c = '\\' → rest = [] → False)
    (h2 : ∀ d tail, c = '\\' → rest = d :: tail → False) : c ≠ '\\' := by
  rintro rfl
  cases rest with
  | nil => exact h1 rfl rfl
  | cons d tail => exact h2 d tail rfl rfl

theorem afterQuote?_cons {c : Char} (h : c ≠ '\\') (quote : Char) (rest : Text) :
    afterQuote? quote (c :: rest) = if c = quote then some rest else afterQuote? quote rest := by
  rw [afterQuote?]
  · exact fun hc => absurd hc h
  · exact fun _ _ hc => absurd hc h

theorem throughQuote_cons {c : Char} (h : c ≠ '\\') (quote : Char) (rest : Text) :
    throughQuote quote (c :: rest) = if c = quote then [c] else c :: throughQuote quote rest := by
  rw [throughQuote]
  · exact fun hc => absurd hc h
  · exact fun _ _ hc => absurd hc h

/-- A literal that closes still closes there when something else follows it. -/
theorem afterQuote?_throughQuote_append {quote : Char} {text after : Text}
    (h : afterQuote? quote text = some after) (rest : Text) :
    afterQuote? quote (throughQuote quote text ++ rest) = some rest := by
  fun_induction afterQuote? quote text with
  | case1 => cases h
  | case2 => cases h
  | case3 c tail ih =>
    simpa only [throughQuote, List.cons_append, afterQuote?] using ih h
  | case4 tail h1 h2 =>
    have hne := ne_backslash h1 h2
    rw [throughQuote_cons hne, if_pos rfl, List.cons_append, List.nil_append,
      afterQuote?_cons hne, if_pos rfl]
  | case5 c tail h1 h2 hc ih =>
    have hne := ne_backslash h1 h2
    rw [throughQuote_cons hne, if_neg hc, List.cons_append, afterQuote?_cons hne, if_neg hc]
    exact ih h

theorem throughQuote_of_open {quote : Char} {text : Text} (h : afterQuote? quote text = none) :
    throughQuote quote text = text := by
  have happ := throughQuote_append_afterQuote quote text
  rwa [afterQuote, h, Option.getD_none, List.append_nil] at happ

/-! ## The reader, mode by mode -/

/-- A text that fits neither pattern for a comment mark has none in front. -/
theorem head_ne_of_unmarked {c : Char} {rest : Text}
    (h1 : ∀ tail, c = '/' → rest = '/' :: tail → False)
    (h2 : ∀ tail, c = '/' → rest = '*' :: tail → False) (hc : c = '/') :
    rest.head? ≠ some '/' ∧ rest.head? ≠ some '*' := by
  constructor
  · intro hhead
    obtain ⟨tail, hrest⟩ := List.head?_eq_some_iff.mp hhead
    exact h1 tail hc hrest
  · intro hhead
    obtain ⟨tail, hrest⟩ := List.head?_eq_some_iff.mp hhead
    exact h2 tail hc hrest

namespace Mode

theorem read_nil (mode : Mode) : mode.read [] = [] := by
  cases mode <;> simp [read]

/-- Inside a line comment the reader looks for the newline. -/
theorem read_lineComment (text : Text) : lineComment.read text = code.read (afterLine text) := by
  induction text with
  | nil => simp [read, afterLine]
  | cons c rest ih =>
    by_cases hc : c = '\n'
    · subst hc
      simp [read, afterLine, isQuote]
    · rw [read, ih, afterLine, afterLine, List.dropWhile_cons_of_pos (by simpa using hc)]
      exact hc

/-- Inside a block comment the reader looks for the end mark. -/
theorem read_blockComment (text : Text) : blockComment.read text = code.read (afterBlock text) := by
  fun_induction afterBlock text with
  | case1 => simp [read]
  | case2 rest => rw [read]
  | case3 c rest h ih => rw [read, ih]; exact h

theorem read_quoted_cons {c : Char} (h : c ≠ '\\') (quote : Char) (rest : Text) :
    (quoted quote).read (c :: rest) =
      if c = quote then .literal (Literal.ofQuote quote) :: code.read rest
      else (quoted quote).read rest := by
  rw [read]
  exact fun _ _ hc => absurd hc h

/-- Inside a literal the reader looks for the closing quote, and stops for good without one. -/
theorem read_quoted {quote : Char} (hq : isQuote quote) (text : Text) :
    (quoted quote).read text = match afterQuote? quote text with
      | some after => .literal (Literal.ofQuote quote) :: code.read after
      | none => [] := by
  have hslash : '\\' ≠ quote := by
    rintro rfl
    exact absurd hq (by decide)
  fun_induction afterQuote? quote text with
  | case1 => rw [read]
  | case2 =>
    rw [read, if_neg hslash, read_nil]
    exact fun _ _ _ hnil => absurd hnil (List.cons_ne_nil _ _).symm
  | case3 c tail ih => rw [read, ih]
  | case4 tail h1 h2 => rw [read_quoted_cons hslash.symm, if_pos rfl]
  | case5 c tail h1 h2 hc ih => rw [read_quoted_cons (ne_backslash h1 h2), if_neg hc, ih]

/-- Where neither a comment nor a literal begins, the reader stays in code. -/
theorem read_code_cons {c : Char} {rest : Text} (hq : isQuote c = false)
    (hmark : c = '/' → rest.head? ≠ some '/' ∧ rest.head? ≠ some '*') :
    code.read (c :: rest) = Fragment.consCode c (code.read rest) := by
  rw [read, if_neg (by simp [hq])]
  · rintro tail rfl rfl
    exact (hmark rfl).1 rfl
  · rintro tail rfl rfl
    exact (hmark rfl).2 rfl

theorem read_code_quote {c : Char} (hq : isQuote c) (rest : Text) :
    code.read (c :: rest) = (quoted c).read rest := by
  rw [read, if_pos hq]
  · rintro tail rfl
    exact absurd hq (by decide)
  · rintro tail rfl
    exact absurd hq (by decide)

end Mode

/-! ## Both passes agree with the reader -/

theorem cutLiterals_cons {c : Char} (hq : isQuote c = false) (rest : Text) :
    Fragment.cutLiterals (c :: rest) = Fragment.consCode c (Fragment.cutLiterals rest) := by
  rw [Fragment.cutLiterals, if_neg (by simp [hq])]

theorem cutLiterals_quote {c : Char} (hq : isQuote c) (rest : Text) :
    Fragment.cutLiterals (c :: rest) = match afterQuote? c rest with
      | some after => .literal (Literal.ofQuote c) :: Fragment.cutLiterals after
      | none => [] := by
  rw [Fragment.cutLiterals, if_pos hq]
  split <;> simp_all

/-- The literals of a text without comments stand where one reader over the whole text sees them. -/
theorem cutLiterals_stripComments (text : Text) :
    Fragment.cutLiterals (stripComments text) = Mode.code.read text := by
  fun_induction stripComments text with
  | case1 => rw [Fragment.cutLiterals, Mode.read]
  | case2 rest ih => rw [ih, Mode.read, Mode.read_lineComment]
  | case3 rest ih =>
    rw [cutLiterals_cons (by decide), ih, Mode.read, Mode.read_blockComment]
  | case4 c rest h1 h2 hq ih =>
    rw [Mode.read_code_quote hq, Mode.read_quoted hq, cutLiterals_quote hq]
    cases hafter : afterQuote? c rest with
    | none =>
      rw [throughQuote_of_open hafter, afterQuote, hafter, Option.getD_none, stripComments,
        List.append_nil, hafter]
    | some after =>
      rw [afterQuote, hafter, Option.getD_some] at ih ⊢
      simp only [afterQuote?_throughQuote_append hafter, ih]
  | case5 c rest h1 h2 hq ih =>
    rw [cutLiterals_cons (by simpa using hq), ih,
      Mode.read_code_cons (by simpa using hq) (head_ne_of_unmarked h1 h2)]

namespace Fragment

/-- Put a stretch of code in front, joining the code that follows. -/
def consText (code : Text) (fragments : List Fragment) : List Fragment :=
  code.foldr consCode fragments

@[simp] theorem consText_nil (fragments : List Fragment) : consText [] fragments = fragments := rfl

@[simp] theorem consText_cons (c : Char) (code : Text) (fragments : List Fragment) :
    consText (c :: code) fragments = consCode c (consText code fragments) := rfl

theorem consText_append (s t : Text) (fragments : List Fragment) :
    consText (s ++ t) fragments = consText s (consText t fragments) :=
  List.foldr_append

end Fragment

/-! ## What the reader leaves in code -/

theorem unmarked_of_ne {a : Char} (h : a ≠ '/') (b : Char) : Unmarked a b :=
  fun hab => h hab.1

/-- Code without quotes and comment marks is read as it stands, if it makes no comment mark with
what follows. -/
theorem Mode.read_code_append {text rest : Text} (hquote : ∀ c ∈ text, isQuote c = false)
    (hchain : text.IsChain Unmarked)
    (hslash : text.getLast? = some '/' → rest.head? ≠ some '/' ∧ rest.head? ≠ some '*') :
    code.read (text ++ rest) = Fragment.consText text (code.read rest) := by
  induction text with
  | nil => rfl
  | cons c text ih =>
    rw [List.cons_append, read_code_cons (hquote c List.mem_cons_self),
      ih (fun d hd => hquote d (List.mem_cons_of_mem _ hd)) hchain.tail
        (fun hlast => hslash (List.mem_getLast?_cons hlast)), Fragment.consText_cons]
    rintro rfl
    cases text with
    | nil => exact hslash rfl
    | cons d text =>
      have hmark : Unmarked '/' d := hchain.rel
      constructor
      · intro hhead
        exact hmark ⟨rfl, Or.inl (Option.some.inj hhead)⟩
      · intro hhead
        exact hmark ⟨rfl, Or.inr (Option.some.inj hhead)⟩

/-- Code without quotes and slashes is read as it stands. -/
theorem Mode.read_code_append_of_ne {text : Text} (h : ∀ c ∈ text, isQuote c = false ∧ c ≠ '/')
    (rest : Text) : code.read (text ++ rest) = Fragment.consText text (code.read rest) := by
  refine read_code_append (fun c hc => (h c hc).1) ?_ fun hlast => ?_
  · exact (List.pairwise_of_forall_mem_list fun a ha b _ => unmarked_of_ne (h a ha).2 b).isChain
  · exact absurd rfl (h '/' (List.mem_of_getLast? hlast)).2

/-- Code as the reader leaves it: without quotes and without comment marks. -/
structure PlainCode (text : Text) : Prop where
  ne_nil : text ≠ []
  quoteFree : ∀ c ∈ text, isQuote c = false
  unmarked : text.IsChain Unmarked

namespace Fragment

/-- One of two neighbours is the token of a literal. -/
def Separated (f g : Fragment) : Prop :=
  ∀ s t, ¬ (f = code s ∧ g = code t)

theorem code_mem_consCode {c : Char} {fragments : List Fragment} {t : Text}
    (h : code t ∈ consCode c fragments) :
    code t ∈ fragments ∨ t = [c] ∨ ∃ s rest, fragments = code s :: rest ∧ t = c :: s := by
  unfold consCode at h
  split at h
  · rename_i s rest
    rcases List.mem_cons.mp h with heq | hmem
    · injection heq with heq
      exact Or.inr (Or.inr ⟨s, rest, rfl, heq⟩)
    · exact Or.inl (List.mem_cons_of_mem _ hmem)
  · rcases List.mem_cons.mp h with heq | hmem
    · injection heq with heq
      exact Or.inr (Or.inl heq)
    · exact Or.inl hmem

theorem isChain_consCode {c : Char} {fragments : List Fragment}
    (h : fragments.IsChain Separated) : (consCode c fragments).IsChain Separated := by
  unfold consCode
  split
  · rename_i s rest
    refine h.tail.cons (fun g hg => ?_)
    intro _ t hcode
    exact h.rel_head? hg s t ⟨rfl, hcode.2⟩
  · rename_i hne
    refine h.cons (fun g hg => ?_)
    rintro _ t ⟨_, rfl⟩
    cases fragments with
    | nil => cases hg
    | cons f rest =>
      obtain rfl := Option.some.inj hg
      exact hne t rest rfl

end Fragment

theorem plainCode_singleton {c : Char} (hq : isQuote c = false) : PlainCode [c] :=
  ⟨List.cons_ne_nil _ _, by simpa using hq, .singleton c⟩

theorem PlainCode.cons {c : Char} {text : Text} (h : PlainCode text) (hq : isQuote c = false)
    (hhead : ∀ d ∈ text.head?, Unmarked c d) : PlainCode (c :: text) := by
  refine ⟨List.cons_ne_nil _ _, ?_, h.unmarked.cons hhead⟩
  intro d hd
  rcases List.mem_cons.mp hd with rfl | hd
  · exact hq
  · exact h.quoteFree d hd

/-- Plain code stays plain with one more character in front. -/
theorem plainCode_consCode {c : Char} {fragments : List Fragment} (hq : isQuote c = false)
    (hall : ∀ t, .code t ∈ fragments → PlainCode t)
    (hhead : ∀ s rest, fragments = .code s :: rest → ∀ d ∈ s.head?, Unmarked c d)
    {t : Text} (ht : .code t ∈ Fragment.consCode c fragments) : PlainCode t := by
  rcases Fragment.code_mem_consCode ht with hmem | rfl | ⟨s, rest, hs, rfl⟩
  · exact hall t hmem
  · exact plainCode_singleton hq
  · refine (hall s ?_).cons hq (hhead s rest hs)
    rw [hs]
    exact List.mem_cons_self

namespace Mode

/-- No two code fragments stand side by side. -/
theorem isChain_read (mode : Mode) (text : Text) :
    (mode.read text).IsChain Fragment.Separated := by
  fun_induction Mode.read mode text with
  | case1 => exact .nil
  | case2 rest ih => exact ih
  | case3 rest ih => exact Fragment.isChain_consCode ih
  | case4 c rest h1 h2 hq ih => exact ih
  | case5 c rest h1 h2 hq ih => exact Fragment.isChain_consCode ih
  | case6 rest ih => exact Fragment.isChain_consCode ih
  | case7 c rest h ih => exact ih
  | case8 rest ih => exact ih
  | case9 c rest h ih => exact ih
  | case10 quote c rest ih => exact ih
  | case11 quote rest h ih =>
    refine ih.cons (fun g _ => ?_)
    rintro s t ⟨hs, _⟩
    cases hs
  | case12 quote c rest h hc ih => exact ih

/-- Code that the reader gives first starts with the first character of the text, or with the blank
that a comment leaves. -/
theorem head_read_code {text : Text} {s : Text} {rest : List Fragment} {c : Char}
    (h : code.read text = .code s :: rest) (hc : c ∈ s.head?) :
    text.head? = some c ∨ c = ' ' ∨ c = '\n' := by
  have hcons : ∀ d fragments, Fragment.consCode d fragments = .code s :: rest → c = d := by
    intro d fragments heq
    unfold Fragment.consCode at heq
    split at heq <;> (cases heq; simpa using hc.symm)
  have hnewline : ∀ after, code.read ('\n' :: after) = .code s :: rest → c = '\n' := by
    intro after heq
    rw [read_code_cons (by decide) (fun hmark => absurd hmark (by decide))] at heq
    exact hcons _ _ heq
  rw [read.eq_def] at h
  split at h
  · cases h
  · rename_i tail _
    rw [read_lineComment] at h
    cases hline : afterLine tail with
    | nil =>
      rw [hline] at h
      cases h
    | cons d after =>
      have hd : d = '\n' := by
        have hnot := List.head?_dropWhile_not (· != '\n') tail
        rw [afterLine] at hline
        simpa [hline] using hnot
      subst hd
      rw [hline] at h
      exact Or.inr (Or.inr (hnewline _ h))
  · exact Or.inr (Or.inl (hcons _ _ h))
  · rename_i d tail _ _ _
    split at h
    · rename_i hq
      rw [read_quoted hq] at h
      split at h <;> cases h
    · exact Or.inl (by rw [hcons _ _ h]; rfl)
  all_goals rename_i hmode; cases hmode

/-- Whatever the text, what the reader leaves in code is plain. -/
theorem plainCode_read (mode : Mode) (text : Text) :
    ∀ t, .code t ∈ mode.read text → PlainCode t := by
  fun_induction Mode.read mode text with
  | case1 => exact fun _ ht => absurd ht List.not_mem_nil
  | case2 rest ih => exact ih
  | case3 rest ih =>
    exact fun t => plainCode_consCode (by decide) ih (fun _ _ _ d _ => unmarked_of_ne (by decide) d)
  | case4 c rest h1 h2 hq ih => exact ih
  | case5 c rest h1 h2 hq ih =>
    intro t
    refine plainCode_consCode (by simpa using hq) ih ?_
    -- a slash is followed by neither a slash nor a star, or it would begin a comment
    rintro s fragments hs d hd ⟨rfl, hmark⟩
    rcases head_read_code hs hd with hhead | rfl | rfl
    · obtain ⟨tail, rfl⟩ : ∃ tail, rest = d :: tail := List.head?_eq_some_iff.mp hhead
      rcases hmark with rfl | rfl
      · exact h1 tail rfl rfl
      · exact h2 tail rfl rfl
    · exact absurd hmark (by decide)
    · exact absurd hmark (by decide)
  | case6 rest ih =>
    exact fun t => plainCode_consCode (by decide) ih (fun _ _ _ d _ => unmarked_of_ne (by decide) d)
  | case7 c rest h ih => exact ih
  | case8 rest ih => exact ih
  | case9 c rest h ih => exact ih
  | case10 quote c rest ih => exact ih
  | case11 quote rest h ih =>
    intro t ht
    rcases List.mem_cons.mp ht with heq | hmem
    · cases heq
    · exact ih t hmem
  | case12 quote c rest h hc ih => exact ih

end Mode

end SourceSimilarity.Canonical
