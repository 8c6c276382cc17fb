import Mathlib.Data.List.DropRight
import SourceSimilarity.Canonical.Normalize
import SourceSimilarity.Proofs.Canonical.Scanning
import SourceSimilarity.Proofs.Canonical.Words

/-!
# The form of a canonical text

A canonical text is a list of tokens that stand side by side as they may, with no blank at either
end. Trimming the fragments takes tokens off the ends of the list, since nothing is looked up across
a blank when words are replaced.
-/

namespace SourceSimilarity.Canonical

open Text

/-! ## Fragments of a source text -/

/-- The fragments of a text are those that one reader sees, with their numbers cut out. -/
theorem fragments_eq (source : Text) :
    fragments source = (Mode.code.read source).flatMap Fragment.cutNumbers := by
  rw [fragments, Scan.fragments?_eq_read, Option.getD_some]

theorem plainCode_fragments (source : Text) :
    ∀ t, .code t ∈ fragments source → PlainCode t := by
  rw [fragments_eq]
  exact Fragment.plainCode_cutNumbers (Mode.plainCode_read .code source)

theorem isChain_fragments (source : Text) : (fragments source).IsChain Fragment.Joint := by
  rw [fragments_eq]
  exact Fragment.isChain_cutNumbers (Mode.isChain_read .code source)
    (fun t ht => (Mode.plainCode_read .code source t ht).ne_nil)
    (fun _ hkind => Mode.ne_number_of_mem_read hkind)

/-! ## Tokens of fragments -/

namespace Fragment

theorem Joint.separated {f g : Fragment} (h : Joint f g) : Separated f g := by
  rintro s t ⟨rfl, rfl⟩
  exact h

/-- The token of a literal. -/
def literalToken : Literal → Token
  | .string => .string
  | .character => .character
  | .number => .word Literal.number.text

@[simp] theorem text_literalToken (kind : Literal) : (literalToken kind).text = kind.text := by
  cases kind <;> rfl

@[simp] theorem isBlank_literalToken (kind : Literal) : (literalToken kind).isBlank = false := by
  cases kind <;> rfl

variable (reserved : ReservedWords)

/-- The tokens of a fragment whose blanks are collapsed. -/
def tokens : Fragment → List Token
  | code text => Token.ofCode reserved text.lower
  | literal kind => [literalToken kind]

/-- The tokens of a fragment show it in its canonical form. -/
theorem flatMap_text_tokens (f : Fragment) :
    (f.tokens reserved).flatMap Token.text = (f.mapCode (canonicalCode reserved)).text := by
  cases f with
  | code s => exact Token.flatMap_text_ofCode reserved s.lower
  | literal kind =>
    rw [tokens, List.flatMap_cons, List.flatMap_nil, List.append_nil, text_literalToken]
    rfl

theorem tokens_ne_nil {f : Fragment} (h : ∀ t, f = code t → t ≠ []) : f.tokens reserved ≠ [] := by
  cases f with
  | code t => exact Token.ofCodeFrom_ne_nil reserved fun _ => lowerFrom_ne_nil (h t rfl)
  | literal kind => exact List.cons_ne_nil _ _

theorem valid_tokens {f : Fragment} (h : ∀ t, f = code t → SpacedCode t) :
    ∀ token ∈ f.tokens reserved, token.Valid reserved := by
  cases f with
  | code t =>
    have hlower := (h t rfl).lower
    exact Token.valid_ofCodeFrom reserved hlower.quoteFree hlower.plainBlank []
  | literal kind =>
    intro token htoken
    obtain rfl := List.mem_singleton.mp htoken
    cases kind with
    | string => trivial
    | character => trivial
    | number => exact ⟨List.cons_ne_nil _ _, Or.inl rfl⟩

theorem isChain_tokens {f : Fragment} (h : ∀ t, f = code t → SpacedCode t) :
    (f.tokens reserved).IsChain Token.Apart := by
  cases f with
  | code t => exact Token.isChain_ofCodeFrom reserved (h t rfl).lower.spaced []
  | literal kind => exact .singleton _

/-- Code that ends outside a word ends with the token of its last character. -/
theorem last_tokens_code {s : Text} {a : Token}
    (hs : ∀ c ∈ s.getLast?, isWord c = false) (ha : a ∈ ((code s).tokens reserved).getLast?) :
    ∃ c, a = .ofChar c := by
  cases hd : s.lower.getLast? with
  | none =>
    rw [tokens, List.getLast?_eq_none_iff.mp hd] at ha
    cases ha
  | some d =>
    obtain ⟨c, hc, ⟨hword, rfl⟩ | ⟨hword, -⟩⟩ := last_lowerFrom hd
    · obtain ⟨init, hinit⟩ := List.getLast?_eq_some_iff.mp hd
      rw [tokens, hinit, Token.ofCode_append_cons reserved hword,
        List.getLast?_append_of_ne_nil _ (List.cons_ne_nil _ _)] at ha
      exact ⟨d, (Option.some.inj ha).symm⟩
    · rw [hs c hc] at hword
      exact absurd hword Bool.false_ne_true

/-- Code that starts outside a word starts with the token of its first character. -/
theorem head_tokens_code {t : Text} {b : Token}
    (ht : ∀ c ∈ t.head?, isWord c = false) (hb : b ∈ ((code t).tokens reserved).head?) :
    ∃ c, b = .ofChar c := by
  cases hd : t.lower with
  | nil =>
    rw [tokens, hd] at hb
    cases hb
  | cons d rest =>
    obtain ⟨c, hc, ⟨hword, rfl⟩ | ⟨hword, -⟩⟩ :=
      head_lowerFrom (show d ∈ (lowerFrom [] t).head? from congrArg List.head? hd)
    · rw [tokens, hd, Token.ofCode_cons reserved hword] at hb
      exact ⟨d, (Option.some.inj hb).symm⟩
    · rw [ht c hc] at hword
      exact absurd hword Bool.false_ne_true

/-- Fragments that may stand side by side may do so as tokens. -/
theorem Joint.apart {f g : Fragment} (h : Joint f g) {a b : Token}
    (ha : a ∈ (f.tokens reserved).getLast?) (hb : b ∈ (g.tokens reserved).head?) :
    Token.Apart a b := by
  have hchar : ∀ c w, Token.Apart (.ofChar c) (.word w) ∧ Token.Apart (.word w) (.ofChar c) := by
    intro c w
    unfold Token.ofChar
    split <;> exact ⟨trivial, trivial⟩
  cases f with
  | code s =>
    cases g with
    | code t => exact absurd h (fun hfalse => hfalse)
    | literal kind =>
      obtain rfl := Option.some.inj hb
      cases kind with
      | string => cases a <;> trivial
      | character => cases a <;> trivial
      | number =>
        obtain ⟨c, rfl⟩ := last_tokens_code reserved h ha
        exact (hchar c _).1
  | literal kind =>
    obtain rfl := Option.some.inj ha
    cases g with
    | code t =>
      cases kind with
      | string => trivial
      | character => trivial
      | number =>
        obtain ⟨c, rfl⟩ := head_tokens_code reserved h hb
        exact (hchar c _).2
    | literal kind' =>
      obtain rfl := Option.some.inj hb
      cases kind <;> cases kind' <;> trivial

/-! ## Trimming -/

theorem tokens_code_append_blank {b : Char} (hb : isBlank b = true) (s t : Text) :
    (code (s ++ b :: t)).tokens reserved =
      (code s).tokens reserved ++ .blank b :: (code t).tokens reserved := by
  rw [tokens, lower_append_blank hb,
    Token.ofCode_append_cons reserved (isWord_eq_false_of_isBlank hb), Token.ofChar, if_pos hb]
  rfl

/-- Code starts with a blank token only if it starts with a blank. -/
theorem head_tokens_blank {t : Text} {token : Token}
    (h : token ∈ ((code t).tokens reserved).head?) (hblank : token.isBlank = true) :
    ∃ c ∈ t.head?, isBlank c = true := by
  rcases Token.head_ofCodeFrom reserved h with ⟨spelling, rfl⟩ | ⟨-, d, hd, -, rfl⟩
  · cases hblank
  · rw [Token.isBlank_ofChar] at hblank
    obtain ⟨c, hc, ⟨-, rfl⟩ | ⟨-, hinert⟩⟩ := head_lowerFrom hd
    · exact ⟨d, hc, hblank⟩
    · rw [hinert.isBlank_eq_false] at hblank
      exact absurd hblank Bool.false_ne_true

/-- Code ends with a blank token only if it ends with a blank. -/
theorem last_tokens_blank {t : Text} {token : Token}
    (h : token ∈ ((code t).tokens reserved).getLast?) (hblank : token.isBlank = true) :
    ∃ c ∈ t.getLast?, isBlank c = true := by
  obtain ⟨d, hd, hdblank⟩ := Token.last_ofCodeFrom_blank reserved h hblank
  obtain ⟨c, hc, ⟨-, rfl⟩ | ⟨-, hinert⟩⟩ := last_lowerFrom hd
  · exact ⟨d, hc, hdblank⟩
  · rw [hinert.isBlank_eq_false] at hdblank
    exact absurd hdblank Bool.false_ne_true

theorem tokens_dropWhile (t : Text) : (code (t.dropWhile isBlank)).tokens reserved =
    ((code t).tokens reserved).dropWhile Token.isBlank := by
  induction t with
  | nil => rfl
  | cons c rest ih =>
    by_cases hc : isBlank c = true
    · have happend := tokens_code_append_blank reserved hc [] rest
      rw [List.nil_append] at happend
      rw [List.dropWhile_cons_of_pos hc, ih, happend]
      rfl
    · rw [List.dropWhile_cons_of_neg hc]
      cases htokens : (code (c :: rest)).tokens reserved with
      | nil => rfl
      | cons token tokens =>
        rw [List.dropWhile_cons_of_neg]
        intro hblank
        obtain ⟨d, hd, hdblank⟩ := head_tokens_blank reserved
          (show token ∈ ((code (c :: rest)).tokens reserved).head? by rw [htokens]; rfl) hblank
        obtain rfl := Option.some.inj hd
        exact hc hdblank

theorem tokens_dropTrailing (t : Text) : (code (dropTrailing isBlank t)).tokens reserved =
    ((code t).tokens reserved).rdropWhile Token.isBlank := by
  rw [show dropTrailing isBlank t = t.rdropWhile isBlank from rfl]
  induction t using List.reverseRecOn with
  | nil => rfl
  | append_singleton init c ih =>
    by_cases hc : isBlank c = true
    · have happend := tokens_code_append_blank reserved hc init []
      rw [List.rdropWhile_concat_pos _ _ _ hc, ih, happend]
      exact (List.rdropWhile_concat_pos _ _ _ rfl).symm
    · rw [List.rdropWhile_concat_neg _ _ _ hc, eq_comm, List.rdropWhile_eq_self_iff]
      intro hne hblank
      obtain ⟨d, hd, hdblank⟩ := last_tokens_blank reserved (List.getLast?_eq_getLast_of_ne_nil hne)
        hblank
      rw [List.getLast?_concat] at hd
      obtain rfl := Option.some.inj hd
      exact hc hdblank

/-- Whatever stands behind a literal, no blank in front goes. -/
theorem dropWhile_tokens_literal (kind : Literal) (rest : List Fragment) :
    ((literal kind :: rest).flatMap (tokens reserved)).dropWhile Token.isBlank =
      (literal kind :: rest).flatMap (tokens reserved) :=
  List.dropWhile_cons_of_neg (by simp)

/-- Trimming the front takes the blank tokens off. -/
theorem flatMap_tokens_trimStart {fragments : List Fragment} (h : fragments.IsChain Separated) :
    (trimStart fragments).flatMap (tokens reserved) =
      (fragments.flatMap (tokens reserved)).dropWhile Token.isBlank := by
  cases fragments with
  | nil => rfl
  | cons f rest =>
    cases f with
    | literal kind => exact (dropWhile_tokens_literal reserved kind rest).symm
    | code t =>
      rw [trimStart, List.flatMap_cons, List.flatMap_cons, tokens_dropWhile, List.dropWhile_append]
      split
      · rename_i hempty
        -- the code was blank all over, but behind it comes a literal or nothing
        rw [List.isEmpty_iff.mp hempty, List.nil_append]
        cases rest with
        | nil => rfl
        | cons g rest =>
          cases g with
          | code s => exact absurd ⟨rfl, rfl⟩ (h.rel t s)
          | literal kind => exact (dropWhile_tokens_literal reserved kind rest).symm
      · rfl

/-- Nothing in front of an element that stays goes when the end is dropped. -/
theorem rdropWhile_append_cons {α : Type} {p : α → Bool} {x : α} (h : p x = false)
    (s t : List α) : (s ++ x :: t).rdropWhile p = s ++ x :: t.rdropWhile p := by
  induction t using List.reverseRecOn with
  | nil => exact List.rdropWhile_concat_neg _ _ _ (by simp [h])
  | append_singleton init last ih =>
    rw [← List.cons_append, ← List.append_assoc, List.rdropWhile_concat, List.rdropWhile_concat]
    split
    · exact ih
    · simp

/-- Trimming the end takes the blank tokens off. -/
theorem flatMap_tokens_trimEnd {fragments : List Fragment} (h : fragments.IsChain Separated) :
    (trimEnd fragments).flatMap (tokens reserved) =
      (fragments.flatMap (tokens reserved)).rdropWhile Token.isBlank := by
  fun_induction trimEnd fragments with
  | case1 => rfl
  | case2 t =>
    rw [List.flatMap_cons, List.flatMap_cons, List.flatMap_nil, List.append_nil, List.append_nil,
      tokens_dropTrailing]
  | case3 f rest hne ih =>
    rw [List.flatMap_cons, List.flatMap_cons, ih h.tail]
    -- `f` is a literal or has one behind it, and no blank in front of a literal goes
    cases f with
    | literal kind =>
      exact (rdropWhile_append_cons (isBlank_literalToken kind) [] _).symm
    | code t =>
      cases rest with
      | nil => exact absurd rfl (hne t rfl)
      | cons g rest =>
        cases g with
        | code s => exact absurd ⟨rfl, rfl⟩ (h.rel t s)
        | literal kind =>
          have hkind := isBlank_literalToken kind
          have hrest := rdropWhile_append_cons hkind [] (rest.flatMap (tokens reserved))
          have hboth := rdropWhile_append_cons hkind ((code t).tokens reserved)
            (rest.flatMap (tokens reserved))
          exact (congrArg _ hrest).trans hboth.symm

theorem isChain_separated_trimStart {fragments : List Fragment} (h : fragments.IsChain Separated) :
    (trimStart fragments).IsChain Separated := by
  unfold trimStart
  split
  · rename_i t rest
    refine h.tail.cons fun g hg => ?_
    rintro _ s ⟨-, rfl⟩
    exact h.rel_head? hg t s ⟨rfl, rfl⟩
  · exact h

/-- Trimming takes the blank tokens off at both ends. -/
theorem flatMap_tokens_trim {fragments : List Fragment} (h : fragments.IsChain Separated) :
    (trim fragments).flatMap (tokens reserved) =
      ((fragments.flatMap (tokens reserved)).dropWhile Token.isBlank).rdropWhile Token.isBlank := by
  rw [trim, flatMap_tokens_trimEnd reserved (isChain_separated_trimStart h),
    flatMap_tokens_trimStart reserved h]

theorem isChain_apart_tokens {fragments : List Fragment} (hchain : fragments.IsChain Joint)
    (hcode : ∀ t, code t ∈ fragments → SpacedCode t) :
    (fragments.flatMap (tokens reserved)).IsChain Token.Apart := by
  rw [List.flatMap_def, List.isChain_flatten]
  · constructor
    · intro l hl
      obtain ⟨f, hf, rfl⟩ := List.mem_map.mp hl
      exact isChain_tokens reserved fun t ht => hcode t (ht ▸ hf)
    · rw [List.isChain_map]
      exact hchain.imp fun f g hfg a ha b hb => hfg.apart reserved ha hb
  · intro hnil
    obtain ⟨f, hf, htokens⟩ := List.mem_map.mp hnil
    exact tokens_ne_nil reserved (fun t ht => (hcode t (ht ▸ hf)).ne_nil) htokens

end Fragment

/-! ## The form -/

/-- Tokens that stand side by side as they may are those of a canonical text once the blanks at the
two ends are gone. -/
theorem isCanonical_trim {reserved : ReservedWords} {tokens : List Token}
    (hvalid : ∀ token ∈ tokens, token.Valid reserved) (hapart : tokens.IsChain Token.Apart) :
    IsCanonical reserved ((tokens.dropWhile Token.isBlank).rdropWhile Token.isBlank) := by
  obtain ⟨front, hfront⟩ := List.dropWhile_suffix Token.isBlank (l := tokens)
  obtain ⟨back, hback⟩ :=
    List.rdropWhile_prefix Token.isBlank (l := tokens.dropWhile Token.isBlank)
  refine ⟨fun token htoken => hvalid token ?_, ?_, fun token htoken => ?_, fun token htoken => ?_⟩
  · rw [← hfront, ← hback]
    exact List.mem_append_right _ (List.mem_append_left _ htoken)
  · rw [← hfront] at hapart
    have hright := hapart.right_of_append
    rw [← hback] at hright
    exact hright.left_of_append
  · have hhead := List.head?_dropWhile_not Token.isBlank tokens
    rw [← hback, List.head?_append, Option.mem_def.mp htoken, Option.some_or] at hhead
    exact hhead
  · have hne := List.ne_nil_of_mem (List.mem_of_getLast? htoken)
    have hlast := List.rdropWhile_last_not Token.isBlank _ hne
    rw [List.getLast?_eq_getLast_of_ne_nil hne] at htoken
    obtain rfl := Option.some.inj htoken
    simpa using hlast

/-- The tokens that the canonical form of fragments has, before the ends are trimmed. -/
def settle (reserved : ReservedWords) (fragments : List Fragment) : List Token :=
  ((fragments.flatMap Fragment.cutNumbers).map (Fragment.mapCode collapseBlanks)).flatMap
    (Fragment.tokens reserved)

theorem settle_append (reserved : ReservedWords) (fragments rest : List Fragment) :
    settle reserved (fragments ++ rest) = settle reserved fragments ++ settle reserved rest := by
  simp only [settle, List.flatMap_append, List.map_append]

theorem settle_literal (reserved : ReservedWords) (kind : Literal) (rest : List Fragment) :
    settle reserved (.literal kind :: rest) = Fragment.literalToken kind :: settle reserved rest :=
  rfl

/-- The tokens that a fragment has once its blanks are collapsed. -/
def Fragment.spacedTokens (reserved : ReservedWords) (f : Fragment) : List Token :=
  (f.mapCode collapseBlanks).tokens reserved

theorem settle_read (reserved : ReservedWords) (source : Text) :
    settle reserved (Mode.code.read source) =
      (fragments source).flatMap (Fragment.spacedTokens reserved) := by
  rw [settle, ← fragments_eq, List.flatMap_map]
  rfl

/-- The tokens of the canonical form of a source text. -/
def canonicalTokens (reserved : ReservedWords) (source : Text) : List Token :=
  (laidOut source).flatMap (Fragment.tokens reserved)

theorem flatMap_text_canonicalTokens (reserved : ReservedWords) (source : Text) :
    (canonicalTokens reserved source).flatMap Token.text = normalizeWith reserved source := by
  rw [canonicalTokens, normalizeWith, List.flatMap_assoc, List.flatMap_map]
  exact congrArg (List.flatMap · (laidOut source))
    (funext fun f => Fragment.flatMap_text_tokens reserved f)

/-- The tokens of the canonical form are those of the fragments, without the blanks at the ends. -/
theorem canonicalTokens_eq (reserved : ReservedWords) (source : Text) :
    canonicalTokens reserved source =
      ((settle reserved (Mode.code.read source)).dropWhile Token.isBlank).rdropWhile
        Token.isBlank := by
  have hchain := Fragment.isChain_joint_collapseBlanks (isChain_fragments source)
  rw [canonicalTokens, laidOut,
    Fragment.flatMap_tokens_trim reserved (hchain.imp fun _ _ hfg => hfg.separated), settle,
    fragments_eq]

theorem isCanonical_canonicalTokens (reserved : ReservedWords) (source : Text) :
    IsCanonical reserved (canonicalTokens reserved source) := by
  have hchain := Fragment.isChain_joint_collapseBlanks (isChain_fragments source)
  have hcode : ∀ t, .code t ∈ (fragments source).map (Fragment.mapCode collapseBlanks) →
      SpacedCode t := by
    intro t ht
    obtain ⟨f, hf, heq⟩ := List.mem_map.mp ht
    cases f with
    | code s =>
      cases heq
      exact (plainCode_fragments source s hf).collapseBlanks
    | literal kind => cases heq
  rw [canonicalTokens_eq, settle, ← fragments_eq]
  refine isCanonical_trim (fun token htoken => ?_)
    (Fragment.isChain_apart_tokens reserved hchain hcode)
  obtain ⟨f, hf, hmem⟩ := List.mem_flatMap.mp htoken
  exact Fragment.valid_tokens reserved (fun t ht => hcode t (ht ▸ hf)) token hmem

/-- The canonical form shows of the fragments only their tokens once blanks are collapsed. -/
theorem normalizeWith_congr {reserved : ReservedWords} {source source' : Text}
    (h : (fragments source).flatMap (Fragment.spacedTokens reserved) =
      (fragments source').flatMap (Fragment.spacedTokens reserved)) :
    normalizeWith reserved source = normalizeWith reserved source' := by
  rw [← flatMap_text_canonicalTokens, ← flatMap_text_canonicalTokens, canonicalTokens_eq,
    canonicalTokens_eq, settle_read, settle_read, h]

/-! ## The built-in reserved words -/

theorem isLower_of_mem_literal (kind : Literal) :
    ∀ c ∈ kind.text, isWord c = true → c.isLower = true := by
  have hall : (kind.text.all fun c => !isWord c || c.isLower) = true := by
    cases kind <;> decide
  intro c hc hword
  simpa [hword] using List.all_eq_true.mp hall c hc

/-- A token of a canonical text has no characters of words but small letters of ASCII. -/
theorem Token.Valid.isLower {token : Token} (h : token.Valid .builtin) {c : Char}
    (hc : c ∈ token.text) (hword : isWord c = true) : c.isLower = true := by
  cases token with
  | string => exact isLower_of_mem_literal .string c hc hword
  | character => exact isLower_of_mem_literal .character c hc hword
  | word spelling =>
    rcases h.2 with rfl | rfl | ⟨entry, hentry, rfl⟩
    · exact isLower_of_mem_literal .number c hc hword
    · exact List.all_eq_true.mp (show placeholder.all Char.isLower = true by decide) c hc
    · exact ReservedWords.isLower_of_mem_builtin hentry c hc
  | blank d =>
    obtain rfl := List.mem_singleton.mp hc
    rw [PlainBlank.isWord_eq_false h] at hword
    exact absurd hword Bool.false_ne_true
  | mark d =>
    obtain rfl := List.mem_singleton.mp hc
    rw [h.1] at hword
    exact absurd hword Bool.false_ne_true

/-- A canonical text under the built-in reserved words is a list of tokens that stand side by side
as they may. No digit and no capital letter of ASCII is left in it. -/
theorem normalize_isCanonical (source : Text) :
    ∃ tokens, normalize source = tokens.flatMap Token.text ∧ IsCanonical .builtin tokens ∧
      ∀ c ∈ normalize source, c.isDigit = false ∧ c.isUpper = false := by
  have htext := (flatMap_text_canonicalTokens .builtin source).symm
  have hcanonical := isCanonical_canonicalTokens .builtin source
  refine ⟨canonicalTokens .builtin source, htext, hcanonical, fun c hc => ?_⟩
  rw [normalize, htext] at hc
  obtain ⟨token, htoken, hmem⟩ := List.mem_flatMap.mp hc
  exact not_digit_not_upper ((hcanonical.valid token htoken).isLower hmem)

end SourceSimilarity.Canonical
