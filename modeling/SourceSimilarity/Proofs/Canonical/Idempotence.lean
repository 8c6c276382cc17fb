import SourceSimilarity.Proofs.Canonical.NumberJoints

/-!
# A canonical text is its own canonical text

The tokens of a canonical text can be read back off it, and they are the tokens of its canonical
form. So a second run changes nothing. The reserved words must be words in lower case that can be
found, or a second run would not know them again.
-/

namespace SourceSimilarity.Canonical

open Text

/-! ## Words that stay -/

namespace Token.IsCanonicalWord

variable {reserved : ReservedWords} {word : Text}

theorem isWord (h : IsCanonicalWord reserved word) (hw : reserved.WellFormed) :
    ∀ c ∈ word, Text.isWord c = true := by
  rcases h with rfl | rfl | ⟨entry, hentry, rfl⟩
  · exact List.all_eq_true.mp (by decide)
  · exact List.all_eq_true.mp (by decide)
  · exact hw.isWord entry hentry

theorem head_not_digit (h : IsCanonicalWord reserved word) (hw : reserved.WellFormed) :
    ∀ c ∈ word.head?, c.isDigit = false := by
  rcases h with rfl | rfl | ⟨entry, hentry, rfl⟩
  · rintro c ⟨⟩
    decide
  · rintro c ⟨⟩
    decide
  · exact hw.head_not_digit entry hentry

theorem caseFixed (h : IsCanonicalWord reserved word) (hw : reserved.WellFormed) :
    ∀ c ∈ word, CaseFixed c := by
  rcases h with rfl | rfl | ⟨entry, hentry, rfl⟩
  · exact caseFixed_of_lower_eq (by decide)
  · exact caseFixed_of_lower_eq (by decide)
  · exact caseFixed_of_lower_eq
      (String.ofList_injective ((hw.lower_eq entry hentry).trans String.ofList_toList.symm))

/-- A word that stands in a canonical text is replaced by itself. -/
theorem canonicalWord_eq (h : IsCanonicalWord reserved word) (hw : reserved.WellFormed) :
    canonicalWord reserved word = word := by
  unfold canonicalWord
  split
  · rfl
  · rename_i hnumber
    rcases h with rfl | rfl | ⟨entry, hentry, rfl⟩
    · exact absurd rfl hnumber
    · split
      · rename_i entry hentry
        rcases (ReservedWords.eq_of_lookup hentry).1 with rfl | rfl
        · decide
        · decide
      · rfl
    · rw [String.ofList_toList, ReservedWords.lookup_entry hw hentry]

end Token.IsCanonicalWord

/-! ## Code that stays -/

/-- `b` may follow `a` in canonical code: they are spaced, and no number begins at `b`. -/
def Settled (a b : Char) : Prop :=
  Spaced a b ∧ (b.isDigit = true → isWord a = true)

/-- An unfinished run of blanks ends where no blank follows. -/
theorem collapseFrom_some {text : Text} (h : ∀ c ∈ text.head?, isBlank c = false) (b : Char) :
    collapseFrom (some b) text = b :: collapseFrom none text := by
  cases text with
  | nil => rfl
  | cons c rest =>
    have hblank := h c rfl
    have hc : c ≠ '\n' := by
      rintro rfl
      exact absurd hblank (by decide)
    rw [collapseFrom, if_neg hc, if_neg (by simp [hblank]), collapseFrom, if_neg hc,
      if_neg (by simp [hblank])]
    rfl

/-- Code whose blanks are collapsed stays as it is. -/
theorem collapseBlanks_of_spaced {text : Text} (h : text.IsChain Spaced)
    (hplain : ∀ c ∈ text, isBlank c = true → PlainBlank c) : collapseBlanks text = text := by
  induction text with
  | nil => rfl
  | cons c rest ih =>
    have ih := ih h.tail fun d hd => hplain d (List.mem_cons_of_mem _ hd)
    rw [collapseBlanks] at ih ⊢
    by_cases hblank : isBlank c = true
    · have hhead : ∀ d ∈ rest.head?, isBlank d = false := by
        intro d hd
        have hspaced := (h.rel_head? hd).2
        simpa [hblank] using hspaced
      -- a plain blank opens a run of its own kind
      have hstep : collapseFrom none (c :: rest) = collapseFrom (some c) rest := by
        rcases hplain c List.mem_cons_self hblank with rfl | rfl
        · rw [collapseFrom, if_neg (by decide), if_pos hblank]
          rfl
        · rw [collapseFrom, if_pos rfl]
      rw [hstep, collapseFrom_some hhead, ih]
    · have hc : c ≠ '\n' := by
        rintro rfl
        exact hblank (by decide)
      rw [collapseFrom, if_neg hc, if_neg hblank, ih]
      rfl

namespace Token

/-- The token is code, and no quoted literal. -/
def isCode : Token → Bool
  | string => false
  | character => false
  | _ => true

variable {reserved : ReservedWords}

/-- What a token of code shows, if it is no word, is one character between words. -/
theorem Valid.eq_ofChar {token : Token} (h : token.Valid reserved) (hcode : token.isCode = true)
    (hword : ∀ spelling, token ≠ word spelling) :
    ∃ c, Text.isWord c = false ∧ token = ofChar c := by
  cases token with
  | string => cases hcode
  | character => cases hcode
  | word spelling => exact absurd rfl (hword spelling)
  | blank c =>
    refine ⟨c, PlainBlank.isWord_eq_false h, ?_⟩
    rw [ofChar, if_pos (PlainBlank.isBlank h)]
  | mark c =>
    refine ⟨c, h.1, ?_⟩
    rw [ofChar, if_neg (by simp [h.2.1])]

/-- No number begins with a token of code. -/
theorem Valid.head_not_digit {token : Token} (h : token.Valid reserved)
    (hcode : token.isCode = true) (hw : reserved.WellFormed) :
    ∀ c ∈ token.text.head?, c.isDigit = false := by
  cases token with
  | string => cases hcode
  | character => cases hcode
  | word spelling => exact h.2.head_not_digit hw
  | blank c =>
    intro d hd
    obtain rfl := Option.some.inj hd
    exact isDigit_eq_false_of_not_isWord (PlainBlank.isWord_eq_false h)
  | mark c =>
    intro d hd
    obtain rfl := Option.some.inj hd
    exact isDigit_eq_false_of_not_isWord h.1

/-- A character of a token of code is no quote and in lower case, and a blank only if plain. -/
theorem Valid.of_mem_text {token : Token} (h : token.Valid reserved) (hcode : token.isCode = true)
    (hw : reserved.WellFormed) {c : Char} (hc : c ∈ token.text) :
    isQuote c = false ∧ CaseFixed c ∧ (Text.isBlank c = true → PlainBlank c) := by
  cases token with
  | string => cases hcode
  | character => cases hcode
  | word spelling =>
    have hword := h.2.isWord hw c hc
    refine ⟨isQuote_eq_false_of_inert (Or.inl hword), h.2.caseFixed hw c hc, fun hblank => ?_⟩
    rw [isBlank_eq_false_of_isWord hword] at hblank
    cases hblank
  | blank d =>
    obtain rfl := List.mem_singleton.mp hc
    refine ⟨?_, caseFixed_of_not_isWord (PlainBlank.isWord_eq_false h), fun _ => h⟩
    rcases h with rfl | rfl <;> decide
  | mark d =>
    obtain rfl := List.mem_singleton.mp hc
    refine ⟨h.2.2, caseFixed_of_not_isWord h.1, fun hblank => ?_⟩
    rw [h.2.1] at hblank
    cases hblank

/-- Where two tokens of code meet, there is neither a comment mark nor a second blank. -/
theorem Apart.spaced {a b : Token} (h : Apart a b) (ha : a.Valid reserved) (hb : b.Valid reserved)
    (hacode : a.isCode = true) (hbcode : b.isCode = true) (hw : reserved.WellFormed)
    {x y : Char} (hx : x ∈ a.text.getLast?) (hy : y ∈ b.text.head?) : Spaced x y := by
  cases a with
  | string => cases hacode
  | character => cases hacode
  | word spelling =>
    exact .of_inert_left (Or.inl (ha.2.isWord hw x (List.mem_of_getLast? hx))) y
  | blank c =>
    obtain rfl := Option.some.inj hx
    cases b with
    | string => cases hbcode
    | character => cases hbcode
    | word spelling => exact .of_inert_right (Or.inl (hb.2.isWord hw y (List.mem_of_head? hy)))
    | blank d => exact absurd h (fun hfalse => hfalse)
    | mark d =>
      obtain rfl := Option.some.inj hy
      refine ⟨unmarked_of_ne ?_ d, by simp [hb.2.1]⟩
      rcases ha with rfl | rfl <;> decide
  | mark c =>
    obtain rfl := Option.some.inj hx
    cases b with
    | string => cases hbcode
    | character => cases hbcode
    | word spelling => exact .of_inert_right (Or.inl (hb.2.isWord hw y (List.mem_of_head? hy)))
    | blank d =>
      obtain rfl := Option.some.inj hy
      refine ⟨?_, by simp [ha.2.1]⟩
      rintro ⟨-, rfl | rfl⟩
      · exact absurd hb (by simp [Valid])
      · exact absurd hb (by simp [Valid])
    | mark d =>
      obtain rfl := Option.some.inj hy
      exact ⟨h, by simp [ha.2.1]⟩

/-- Inside a token of code nothing begins, either. -/
theorem Valid.isChain_text {token : Token} (h : token.Valid reserved) (hcode : token.isCode = true)
    (hw : reserved.WellFormed) : token.text.IsChain Settled := by
  cases token with
  | string => cases hcode
  | character => cases hcode
  | word spelling =>
    have hword := h.2.isWord hw
    refine (List.pairwise_of_forall_mem_list fun a ha b _ => ?_).isChain
    exact ⟨.of_inert_left (Or.inl (hword a ha)) b, fun _ => hword a ha⟩
  | blank c => exact .singleton c
  | mark c => exact .singleton c

end Token

/-- A run of tokens of canonical code. -/
structure CodeRun (reserved : ReservedWords) (run : List Token) : Prop where
  valid : ∀ token ∈ run, token.Valid reserved
  isCode : ∀ token ∈ run, token.isCode = true
  apart : run.IsChain Token.Apart

namespace CodeRun

variable {reserved : ReservedWords} {run : List Token}

theorem tail {token : Token} (h : CodeRun reserved (token :: run)) : CodeRun reserved run :=
  ⟨fun t ht => h.valid t (List.mem_cons_of_mem _ ht),
    fun t ht => h.isCode t (List.mem_cons_of_mem _ ht), h.apart.tail⟩

/-- The tokens of a run are read back off its text. -/
theorem ofCode_text (h : CodeRun reserved run) (hw : reserved.WellFormed) :
    Token.ofCode reserved (run.flatMap Token.text) = run := by
  induction run with
  | nil => rfl
  | cons token run ih =>
    have ih := ih h.tail
    have hvalid := h.valid token List.mem_cons_self
    have hcode := h.isCode token List.mem_cons_self
    rw [List.flatMap_cons]
    by_cases hword : ∃ spelling, token = .word spelling
    · obtain ⟨spelling, rfl⟩ := hword
      -- the word ends where its token does, since the next token is no word
      have hhead : ∀ c ∈ (run.flatMap Token.text).head?, isWord c = false := by
        cases run with
        | nil => exact fun c hc => nomatch hc
        | cons next run =>
          have hnext : ∀ spelling', next ≠ .word spelling' := by
            rintro spelling' rfl
            exact h.apart.rel
          obtain ⟨c, hc, rfl⟩ := (h.valid next (by simp)).eq_ofChar (h.isCode next (by simp)) hnext
          intro d hd
          rw [List.flatMap_cons, Token.text_ofChar] at hd
          obtain rfl := Option.some.inj hd
          exact hc
      rw [Token.ofCode, Token.text, Token.ofCodeFrom_append_word reserved (hvalid.2.isWord hw),
        Token.ofCodeFrom_of_head reserved hhead, ih, List.append_nil, Token.ofWord,
        if_neg (by simpa using hvalid.1), List.reverse_reverse, hvalid.2.canonicalWord_eq hw]
      rfl
    · obtain ⟨c, hc, rfl⟩ := hvalid.eq_ofChar hcode (fun spelling heq => hword ⟨spelling, heq⟩)
      rw [Token.text_ofChar, List.singleton_append, Token.ofCode_cons reserved hc, ih]

theorem of_mem_text (h : CodeRun reserved run) (hw : reserved.WellFormed) {c : Char}
    (hc : c ∈ run.flatMap Token.text) :
    isQuote c = false ∧ CaseFixed c ∧ (isBlank c = true → PlainBlank c) := by
  obtain ⟨token, htoken, hmem⟩ := List.mem_flatMap.mp hc
  exact (h.valid token htoken).of_mem_text (h.isCode token htoken) hw hmem

/-- No number begins anywhere in a run, and no comment. -/
theorem isChain_text (h : CodeRun reserved run) (hw : reserved.WellFormed) :
    (run.flatMap Token.text).IsChain Settled := by
  rw [List.flatMap_def, List.isChain_flatten]
  · constructor
    · intro l hl
      obtain ⟨token, htoken, rfl⟩ := List.mem_map.mp hl
      exact (h.valid token htoken).isChain_text (h.isCode token htoken) hw
    · rw [List.isChain_map]
      refine h.apart.imp_of_mem_imp fun a b ha hb hab x hx y hy => ?_
      have hcode := h.isCode b hb
      refine ⟨hab.spaced (h.valid a ha) (h.valid b hb) (h.isCode a ha) hcode hw hx hy, ?_⟩
      intro hdigit
      rw [(h.valid b hb).head_not_digit hcode hw y hy] at hdigit
      cases hdigit
  · intro hnil
    obtain ⟨token, htoken, htext⟩ := List.mem_map.mp hnil
    exact (h.valid token htoken).text_ne_nil htext

theorem head_not_digit (h : CodeRun reserved run) (hw : reserved.WellFormed) :
    ∀ c ∈ (run.flatMap Token.text).head?, c.isDigit = false := by
  cases run with
  | nil => exact fun c hc => nomatch hc
  | cons token run =>
    have hvalid := h.valid token List.mem_cons_self
    intro c hc
    obtain ⟨d, tail, htext⟩ := List.exists_cons_of_ne_nil hvalid.text_ne_nil
    refine hvalid.head_not_digit (h.isCode token List.mem_cons_self) hw c ?_
    rw [List.flatMap_cons, htext] at hc
    rwa [htext]

theorem text_ne_nil (h : CodeRun reserved run) (hne : run ≠ []) : run.flatMap Token.text ≠ [] := by
  obtain ⟨token, rest, rfl⟩ := List.exists_cons_of_ne_nil hne
  exact List.append_ne_nil_of_left_ne_nil (h.valid token List.mem_cons_self).text_ne_nil _

end CodeRun

/-! ## Reading tokens back -/

/-- A run of canonical code has its own tokens. -/
theorem CodeRun.settle_text {reserved : ReservedWords} {run : List Token}
    (h : CodeRun reserved run) (hw : reserved.WellFormed) :
    settle reserved (Scan.codeFragment (run.flatMap Token.text)) = run := by
  by_cases hne : run = []
  · subst hne
    rfl
  · have htext := h.text_ne_nil hne
    have hchain := h.isChain_text hw
    have hcut : Fragment.cutNumbers (.code (run.flatMap Token.text)) =
        [.code (run.flatMap Token.text)] :=
      Fragment.cutNumbers_plain htext (hchain.imp fun _ _ hab => hab.2) (h.head_not_digit hw)
    have hcollapse := collapseBlanks_of_spaced (hchain.imp fun _ _ hab => hab.1)
      fun c hc => (h.of_mem_text hw hc).2.2
    have hlower : lower (run.flatMap Token.text) = run.flatMap Token.text :=
      lowerFrom_of_caseFixed (fun c hc => (h.of_mem_text hw hc).2.1) []
    have hfragment : settle reserved [.code (run.flatMap Token.text)] = run := by
      simp only [settle, List.flatMap_cons, List.flatMap_nil, List.append_nil, hcut,
        List.map_cons, List.map_nil, Fragment.mapCode, hcollapse, Fragment.tokens, hlower,
        h.ofCode_text hw]
    rw [Scan.codeFragment, if_neg (by simpa using htext)]
    exact hfragment

/-- The token of a quoted literal is read as that literal. -/
theorem Mode.read_code_literal {kind : Literal} (h : kind ≠ .number) (rest : Text) :
    code.read (kind.text ++ rest) = .literal kind :: code.read rest := by
  cases kind with
  | string =>
    rw [Literal.text, List.cons_append, read_code_quote (by decide), read_quoted (by decide)]
    rfl
  | character =>
    rw [Literal.text, List.cons_append, read_code_quote (by decide), read_quoted (by decide)]
    rfl
  | number => exact absurd rfl h

theorem CodeRun.read_append {reserved : ReservedWords} {run : List Token}
    (h : CodeRun reserved run) (hw : reserved.WellFormed) {rest : Text}
    (hrest : ∀ c ∈ rest.head?, isQuote c = true) :
    Mode.code.read (run.flatMap Token.text ++ rest) =
      Fragment.consText (run.flatMap Token.text) (Mode.code.read rest) :=
  Mode.read_code_append (fun _ hc => (h.of_mem_text hw hc).1)
    ((h.isChain_text hw).imp fun _ _ hab => hab.1.1) fun _ =>
      ⟨fun hslash => absurd (hrest _ hslash) (by decide),
        fun hstar => absurd (hrest _ hstar) (by decide)⟩

/-- Tokens that stand behind a run of code are read back off the whole text. -/
theorem settle_read_text {reserved : ReservedWords} (hw : reserved.WellFormed)
    {run tokens : List Token} (hrun : CodeRun reserved run)
    (hvalid : ∀ token ∈ tokens, token.Valid reserved)
    (hapart : (run ++ tokens).IsChain Token.Apart) :
    settle reserved (Mode.code.read (run.flatMap Token.text ++ tokens.flatMap Token.text)) =
      run ++ tokens := by
  -- a token of code joins the run in front, and a quoted literal ends it
  induction tokens generalizing run with
  | nil =>
    rw [List.flatMap_nil, hrun.read_append hw (by simp), Mode.read_nil,
      ← Scan.codeFragment_append (by simp), List.append_nil, List.append_nil, hrun.settle_text hw]
  | cons token tokens ih =>
    have htoken := hvalid token List.mem_cons_self
    have htokens := fun t ht => hvalid t (List.mem_cons_of_mem _ ht)
    have hsplit : run ++ token :: tokens = (run ++ [token]) ++ tokens := by simp
    have hliteral : ∀ kind : Literal, kind ≠ .number → token = Fragment.literalToken kind →
        settle reserved (Mode.code.read (run.flatMap Token.text ++
          (token :: tokens).flatMap Token.text)) = run ++ token :: tokens := by
      rintro kind hkind rfl
      have hrest : ∀ c ∈ (kind.text ++ tokens.flatMap Token.text).head?, isQuote c = true := by
        cases kind <;> simp [Literal.text, isQuote] at hkind ⊢
      rw [List.flatMap_cons, Fragment.text_literalToken, hrun.read_append hw hrest,
        Mode.read_code_literal hkind, ← Scan.codeFragment_append (by simp), settle_append,
        settle_literal, hrun.settle_text hw]
      have htail := @ih [] ⟨by simp, by simp, .nil⟩ htokens hapart.right_of_append.tail
      rw [List.flatMap_nil, List.nil_append] at htail
      rw [htail, List.nil_append]
    by_cases hcode : token.isCode = true
    · have hnext : CodeRun reserved (run ++ [token]) := by
        rw [hsplit] at hapart
        refine ⟨fun t ht => ?_, fun t ht => ?_, hapart.left_of_append⟩
        · rcases List.mem_append.mp ht with ht | ht
          · exact hrun.valid t ht
          · exact List.mem_singleton.mp ht ▸ htoken
        · rcases List.mem_append.mp ht with ht | ht
          · exact hrun.isCode t ht
          · exact List.mem_singleton.mp ht ▸ hcode
      have hread := ih hnext htokens (hsplit ▸ hapart)
      rw [hsplit, ← hread, List.flatMap_append, List.flatMap_cons, List.flatMap_cons,
        List.flatMap_nil, List.append_nil, List.append_assoc]
    · cases token with
      | string => exact hliteral .string (by decide) rfl
      | character => exact hliteral .character (by decide) rfl
      | word spelling => exact absurd rfl hcode
      | blank c => exact absurd rfl hcode
      | mark c => exact absurd rfl hcode

/-- The tokens of a canonical text are read back off it. -/
theorem canonicalTokens_text {reserved : ReservedWords} (hw : reserved.WellFormed)
    {tokens : List Token} (h : IsCanonical reserved tokens) :
    canonicalTokens reserved (tokens.flatMap Token.text) = tokens := by
  have hread := settle_read_text hw ⟨by simp, by simp, .nil⟩ h.valid h.apart
  rw [List.flatMap_nil, List.nil_append, List.nil_append] at hread
  have hfront : tokens.dropWhile Token.isBlank = tokens := by
    cases tokens with
    | nil => rfl
    | cons token rest =>
      exact List.dropWhile_cons_of_neg (by simp [h.head_not_blank token rfl])
  rw [canonicalTokens_eq, hread, hfront, List.rdropWhile_eq_self_iff]
  intro hne
  simp [h.last_not_blank _ (List.getLast?_eq_getLast_of_ne_nil hne)]

/-- A canonical text is its own canonical text. -/
theorem normalizeWith_text {reserved : ReservedWords} (hw : reserved.WellFormed)
    {tokens : List Token} (h : IsCanonical reserved tokens) :
    normalizeWith reserved (tokens.flatMap Token.text) = tokens.flatMap Token.text := by
  rw [← flatMap_text_canonicalTokens, canonicalTokens_text hw h]

/-- Normalizing twice is normalizing once, under every table of reserved words that is as it should
be, and the built-in table is. -/
theorem normalizeWith_idempotent : ReservedWords.builtin.WellFormed ∧
    ∀ reserved : ReservedWords, reserved.WellFormed → ∀ source : Text,
      normalizeWith reserved (normalizeWith reserved source) = normalizeWith reserved source := by
  refine ⟨ReservedWords.builtin_wellFormed, fun reserved hw source => ?_⟩
  rw [← flatMap_text_canonicalTokens reserved source]
  exact normalizeWith_text hw (isCanonical_canonicalTokens reserved source)

theorem normalizeWith_idempotent_builtin :
    ReservedWords.builtin.WellFormed ∧
      normalizeWith .builtin (normalizeWith .builtin "Let SÜß = 'x' /2; // İ".toList) =
        normalizeWith .builtin "Let SÜß = 'x' /2; // İ".toList :=
  ⟨ReservedWords.builtin_wellFormed,
    normalizeWith_idempotent.2 .builtin ReservedWords.builtin_wellFormed _⟩

end SourceSimilarity.Canonical
