import SourceSimilarity.Proofs.Canonical.Gaps

/-!
# Line by line

The canonical form of two texts with a newline between them is made of their canonical forms, with
one newline between those that are not empty. Nothing is read, collapsed, looked up or trimmed
across the newline but the blanks next to it.
-/

namespace SourceSimilarity.Canonical

open Text

/-! ## Collapsing blanks around a newline -/

/-- An unfinished run of blanks in front of a text shows only in front of it. -/
theorem dropWhile_collapseFrom {pending : Option Char} (hp : ∀ b ∈ pending, PlainBlank b)
    (text : Text) : (collapseFrom pending text).dropWhile isBlank =
      (collapseFrom none text).dropWhile isBlank := by
  induction text generalizing pending with
  | nil =>
    cases pending with
    | none => rfl
    | some b => exact List.dropWhile_cons_of_pos (hp b rfl).isBlank
  | cons c rest ih =>
    by_cases hc : c = '\n'
    · simp only [collapseFrom, if_pos hc]
    · by_cases hblank : isBlank c = true
      · simp only [collapseFrom, if_neg hc, if_pos hblank]
        have hrun := ih fun b hb => Option.some.inj hb ▸ plainBlank_getD hp
        have hspace := ih fun b hb => Option.some.inj hb ▸ plainBlank_getD plainBlank_of_mem_none
        exact hrun.trans hspace.symm
      · simp only [collapseFrom, if_neg hc, if_neg hblank]
        cases pending with
        | none => rfl
        | some b => exact List.dropWhile_cons_of_pos (hp b rfl).isBlank

/-- A newline takes the blanks behind it with it. -/
theorem collapseFrom_newline (text : Text) : collapseFrom (some '\n') text =
    '\n' :: (collapseBlanks text).dropWhile isBlank := by
  induction text with
  | nil => rfl
  | cons c rest ih =>
    by_cases hc : c = '\n'
    · have hrun := @dropWhile_collapseFrom (some '\n') (by simp [PlainBlank]) rest
      rw [collapseFrom, if_pos hc, ih, collapseBlanks, collapseBlanks, collapseFrom, if_pos hc,
        hrun]
    · by_cases hblank : isBlank c = true
      · have hrun := @dropWhile_collapseFrom (some ' ') (by simp [PlainBlank]) rest
        rw [collapseFrom, if_neg hc, if_pos hblank, Option.getD_some, ih, collapseBlanks,
          collapseBlanks, collapseFrom, if_neg hc, if_pos hblank, Option.getD_none, hrun]
      · rw [collapseFrom, if_neg hc, if_neg hblank, collapseBlanks, collapseFrom, if_neg hc,
          if_neg hblank, Option.toList_none, List.nil_append,
          List.dropWhile_cons_of_neg (by simpa using hblank)]
        rfl

/-- A newline takes the blanks on its two sides with it. -/
theorem collapseFrom_append_newline {pending : Option Char} (hp : ∀ b ∈ pending, PlainBlank b)
    (s t : Text) : collapseFrom pending (s ++ '\n' :: t) =
      (collapseFrom pending s).rdropWhile isBlank ++
        '\n' :: (collapseBlanks t).dropWhile isBlank := by
  induction s generalizing pending with
  | nil =>
    have hstep : collapseFrom pending ('\n' :: t) = collapseFrom (some '\n') t := by
      rw [collapseFrom, if_pos rfl]
    rw [List.nil_append, hstep, collapseFrom_newline]
    cases pending with
    | none => rfl
    | some b =>
      have hb : [b].rdropWhile isBlank = [] := List.rdropWhile_concat_pos _ [] _ (hp b rfl).isBlank
      exact congrArg (· ++ _) hb.symm
  | cons c s ih =>
    by_cases hc : c = '\n'
    · simp only [List.cons_append, collapseFrom, if_pos hc]
      exact ih fun b hb => Or.inr (Option.some.inj hb).symm
    · by_cases hblank : isBlank c = true
      · simp only [List.cons_append, collapseFrom, if_neg hc, if_pos hblank]
        exact ih fun b hb => Option.some.inj hb ▸ plainBlank_getD hp
      · simp only [List.cons_append, collapseFrom, if_neg hc, if_neg hblank]
        rw [ih plainBlank_of_mem_none, Fragment.rdropWhile_append_cons (by simpa using hblank),
          List.append_assoc, List.cons_append]

namespace Fragment

variable (reserved : ReservedWords)

/-- A newline in code is a token of its own, and takes the blank tokens next to it. -/
theorem spacedTokens_newline (u v : Text) :
    (code (u ++ ['\n'] ++ v)).spacedTokens reserved =
      ((code u).spacedTokens reserved).rdropWhile Token.isBlank ++
        .blank '\n' :: ((code v).spacedTokens reserved).dropWhile Token.isBlank := by
  have hcollapse := collapseFrom_append_newline plainBlank_of_mem_none u v
  rw [List.append_assoc, List.singleton_append, spacedTokens, mapCode, collapseBlanks, hcollapse,
    tokens_code_append_blank reserved (by decide), tokens_dropWhile]
  exact congrArg (· ++ _) (tokens_dropTrailing reserved (collapseBlanks u))

theorem flatMap_spacedTokens_codeFragment (u : Text) :
    (Scan.codeFragment u).flatMap (spacedTokens reserved) = (code u).spacedTokens reserved := by
  cases u with
  | nil => rfl
  | cons c u => rw [Scan.codeFragment, if_neg (by simp), List.flatMap_cons, List.flatMap_nil,
      List.append_nil]

/-- No blank in front of a literal goes when the end is trimmed. -/
theorem rdropWhile_flatMap_spacedTokens {front : List Fragment}
    (h : ∀ s, code s ∉ front.getLast?) (rest : List Token) :
    (front.flatMap (spacedTokens reserved) ++ rest).rdropWhile Token.isBlank =
      front.flatMap (spacedTokens reserved) ++ rest.rdropWhile Token.isBlank := by
  rcases List.eq_nil_or_concat front with rfl | ⟨front, f, rfl⟩
  · rfl
  · rw [List.concat_eq_append] at h ⊢
    cases f with
    | code s => exact absurd (by simp) (h s)
    | literal kind =>
      have hkind := isBlank_literalToken kind
      rw [List.flatMap_append, List.append_assoc, List.append_assoc]
      exact rdropWhile_append_cons hkind _ rest

/-- No blank behind a literal goes when the front is trimmed. -/
theorem dropWhile_flatMap_spacedTokens {back : List Fragment} (h : ∀ s, code s ∉ back.head?)
    (rest : List Token) :
    (rest ++ back.flatMap (spacedTokens reserved)).dropWhile Token.isBlank =
      rest.dropWhile Token.isBlank ++ back.flatMap (spacedTokens reserved) := by
  have hback : (back.flatMap (spacedTokens reserved)).dropWhile Token.isBlank =
      back.flatMap (spacedTokens reserved) := by
    cases back with
    | nil => rfl
    | cons f back =>
      cases f with
      | code s => exact absurd rfl (h s)
      | literal kind => exact List.dropWhile_cons_of_neg (by simp)
  rw [List.dropWhile_append]
  split
  · rename_i hempty
    rw [hback, List.isEmpty_iff.mp hempty, List.nil_append]
  · rfl

end Fragment

/-! ## Trimming around a newline -/

namespace Token

/-- The tokens without the blank ones at the two ends. -/
def trim (tokens : List Token) : List Token :=
  (tokens.dropWhile isBlank).rdropWhile isBlank

/-- Tokens are blank all over, or the first that is not ends what goes in front. -/
theorem trim_cases (tokens : List Token) :
    (tokens.dropWhile isBlank = [] ∧ tokens.rdropWhile isBlank = [] ∧ trim tokens = []) ∨
      ∃ front x rest, (∀ b ∈ front, b.isBlank = true) ∧ x.isBlank = false ∧
        tokens.dropWhile isBlank = x :: rest ∧
        tokens.rdropWhile isBlank = front ++ x :: rest.rdropWhile isBlank ∧
        trim tokens = x :: rest.rdropWhile isBlank := by
  cases hdrop : tokens.dropWhile isBlank with
  | nil =>
    refine Or.inl ⟨rfl, ?_, by rw [trim, hdrop, List.rdropWhile_nil]⟩
    exact List.rdropWhile_eq_nil_iff.mpr (List.dropWhile_eq_nil_iff.mp hdrop)
  | cons x rest =>
    have hx : x.isBlank = false := by
      have hnot := List.head?_dropWhile_not isBlank tokens
      simpa [hdrop] using hnot
    have hsplit := List.takeWhile_append_dropWhile (p := isBlank) (l := tokens)
    rw [hdrop] at hsplit
    refine Or.inr ⟨tokens.takeWhile isBlank, x, rest, fun b hb => List.mem_takeWhile_imp hb, hx,
      rfl, ?_, ?_⟩
    · rw [← Fragment.rdropWhile_append_cons hx, hsplit]
    · rw [trim, hdrop]
      exact Fragment.rdropWhile_append_cons hx [] rest

/-- Two lists of tokens trimmed towards a blank between them, and then at their outer ends. A side
that is blank all over takes the blank between the two with it. -/
theorem trim_append_blank {b : Token} (hb : b.isBlank = true) (s t : List Token) :
    trim (s.rdropWhile isBlank ++ b :: t.dropWhile isBlank) =
      if trim s = [] then trim t else if trim t = [] then trim s else trim s ++ b :: trim t := by
  rcases trim_cases s with ⟨-, hs, hstrim⟩ | ⟨front, x, rest, hfront, hx, -, hs, hstrim⟩
  · rw [if_pos hstrim, hs, List.nil_append, trim, List.dropWhile_cons_of_pos hb,
      List.dropWhile_idempotent]
    rfl
  · have hdrop : ∀ tail, (s.rdropWhile isBlank ++ tail).dropWhile isBlank =
        x :: (rest.rdropWhile isBlank ++ tail) := by
      intro tail
      rw [hs, List.append_assoc, List.dropWhile_append_of_pos hfront, List.cons_append,
        List.dropWhile_cons_of_neg (by simp [hx])]
    have hkeep : ∀ tail, (x :: tail).rdropWhile isBlank = x :: tail.rdropWhile isBlank :=
      fun tail => Fragment.rdropWhile_append_cons hx [] tail
    rw [if_neg (by simp [hstrim]), trim, hdrop, hkeep, hstrim]
    rcases trim_cases t with ⟨ht, -, httrim⟩ | ⟨-, y, rest', -, hy, ht, -, httrim⟩
    · rw [if_pos httrim, ht, List.rdropWhile_concat_pos _ _ _ hb, List.rdropWhile_idempotent]
    · have hback := Fragment.rdropWhile_append_cons hy (rest.rdropWhile isBlank ++ [b]) rest'
      rw [List.append_assoc, List.append_assoc, List.singleton_append, List.singleton_append]
        at hback
      rw [if_neg (by simp [httrim]), ht, hback, httrim, List.cons_append]

end Token

/-! ## Canonical texts of lines -/

section

variable (reserved : ReservedWords)

theorem canonicalTokens_eq_trim (source : Text) : canonicalTokens reserved source =
    Token.trim ((fragments source).flatMap (Fragment.spacedTokens reserved)) := by
  rw [canonicalTokens_eq, settle_read, Token.trim]

/-- The tokens around a newline are those of the two sides, trimmed towards it. -/
theorem flatMap_spacedTokens_newline {a : Text}
    (hend : Mode.code.after a = .code ∨ Mode.code.after a = .lineComment) (b : Text) :
    (fragments (a ++ '\n' :: b)).flatMap (Fragment.spacedTokens reserved) =
      ((fragments a).flatMap (Fragment.spacedTokens reserved)).rdropWhile Token.isBlank ++
        .blank '\n' ::
          ((fragments b).flatMap (Fragment.spacedTokens reserved)).dropWhile Token.isBlank := by
  have hread : (Mode.code.after a).read (['\n'] ++ b) =
      Fragment.consText ['\n'] (Mode.code.read b) := by
    rcases hend with hcode | hcomment
    · rw [hcode]
      exact Mode.read_code_blank (by decide) b
    · rw [hcomment, List.singleton_append, Mode.read]
      rfl
  obtain ⟨front, u, v, back, ha, hb, hfront, hback, hbetween⟩ := exists_fragments_between a b
  have hfragments := fragments_append_blanks hend (by simp) hread (by simp)
    (by simpa using show isBlank '\n' = true by decide)
  rw [List.singleton_append] at hfragments
  rw [hfragments, hbetween _ (by simp), ha, hb, List.flatMap_append, List.flatMap_append,
    List.flatMap_append, List.flatMap_cons, Fragment.flatMap_spacedTokens_codeFragment,
    Fragment.flatMap_spacedTokens_codeFragment, Fragment.spacedTokens_newline,
    Fragment.rdropWhile_flatMap_spacedTokens reserved hfront,
    Fragment.dropWhile_flatMap_spacedTokens reserved hback]
  simp only [List.append_assoc, List.cons_append]

theorem normalizeWith_eq_nil_iff (source : Text) :
    normalizeWith reserved source = [] ↔ canonicalTokens reserved source = [] := by
  have hvalid := (isCanonical_canonicalTokens reserved source).valid
  rw [← flatMap_text_canonicalTokens, List.flatMap_eq_nil_iff]
  constructor
  · intro h
    rw [List.eq_nil_iff_forall_not_mem]
    exact fun token htoken => (hvalid token htoken).text_ne_nil (h token htoken)
  · intro h token htoken
    rw [h] at htoken
    cases htoken

/-- The canonical form goes line by line: of two texts with a newline between them it is what is
not empty of their canonical forms, joined by one newline. The first text may end in a line comment,
but not in a literal or a block comment. -/
theorem normalizeWith_append_newline {a : Text}
    (hend : Mode.code.after a = .code ∨ Mode.code.after a = .lineComment) (b : Text) :
    normalizeWith reserved (a ++ ['\n'] ++ b) =
      ['\n'].intercalate
        ([normalizeWith reserved a, normalizeWith reserved b].filter (· ≠ [])) := by
  have htokens : canonicalTokens reserved (a ++ '\n' :: b) =
      if canonicalTokens reserved a = [] then canonicalTokens reserved b
      else if canonicalTokens reserved b = [] then canonicalTokens reserved a
      else canonicalTokens reserved a ++ .blank '\n' :: canonicalTokens reserved b := by
    rw [canonicalTokens_eq_trim, flatMap_spacedTokens_newline reserved hend,
      Token.trim_append_blank rfl, canonicalTokens_eq_trim, canonicalTokens_eq_trim]
  rw [List.append_assoc, List.singleton_append, ← flatMap_text_canonicalTokens, htokens]
  by_cases ha : canonicalTokens reserved a = []
  · have hna := (normalizeWith_eq_nil_iff reserved a).mpr ha
    rw [if_pos ha, flatMap_text_canonicalTokens, hna]
    by_cases hnb : normalizeWith reserved b = []
    · simp [hnb]
    · simp [hnb]
  · have hna : normalizeWith reserved a ≠ [] := fun h => ha ((normalizeWith_eq_nil_iff _ _).mp h)
    by_cases hb : canonicalTokens reserved b = []
    · have hnb := (normalizeWith_eq_nil_iff reserved b).mpr hb
      rw [if_neg ha, if_pos hb, flatMap_text_canonicalTokens, hnb]
      simp [hna]
    · have hnb : normalizeWith reserved b ≠ [] := fun h => hb ((normalizeWith_eq_nil_iff _ _).mp h)
      rw [if_neg ha, if_neg hb, List.flatMap_append, List.flatMap_cons,
        flatMap_text_canonicalTokens, flatMap_text_canonicalTokens, Token.text]
      simp [hna, hnb]

/-- An open line comment ends with the line, and a line of comments alone leaves nothing. -/
theorem normalizeWith_append_newline_comment :
    (Mode.code.after ['a', ' ', '/', '/', '"'] = .code ∨
      Mode.code.after ['a', ' ', '/', '/', '"'] = .lineComment) ∧
      normalizeWith .builtin (['a', ' ', '/', '/', '"'] ++ ['\n'] ++ ['/', '*', ' ']) =
        ['\n'].intercalate ([normalizeWith .builtin ['a', ' ', '/', '/', '"'],
          normalizeWith .builtin ['/', '*', ' ']].filter (· ≠ [])) :=
  ⟨by decide, normalizeWith_append_newline .builtin (by decide) _⟩

end

end SourceSimilarity.Canonical
