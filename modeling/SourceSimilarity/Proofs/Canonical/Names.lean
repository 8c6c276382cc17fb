import SourceSimilarity.Proofs.Canonical.NumberJoints

/-!
# Names

A name that is not reserved may be spelled in any way. It neither holds a number nor takes a digit
from what follows, and of its lower case nothing shows but that it is no reserved word. It may
change the form of a sigma in a word next to it, but no reserved word has one.
-/

namespace SourceSimilarity.Canonical

open Text

/-- The word stands for a name: it begins with no digit, and its lower case is a word that is not
reserved and does not read as a number. -/
structure IsName (word : Text) : Prop where
  ne_nil : word ≠ []
  isWord : ∀ c ∈ word, isWord c = true
  head_not_digit : ∀ c ∈ word.head?, c.isDigit = false
  isWord_lower : ∀ c ∈ word.lower, Text.isWord c = true
  not_reserved : String.ofList word.lower ∉ ReservedWords.builtin.words
  not_number : word.lower ≠ Literal.number.text

/-! ## Sigmas -/

/-- A word with a small sigma is not reserved. -/
theorem canonicalWord_of_sigma {word : Text} (h : 'ς' ∈ word ∨ 'σ' ∈ word) :
    canonicalWord .builtin word = placeholder := by
  obtain ⟨c, hc, hfixed, hletter⟩ : ∃ c ∈ word, CaseFixed c ∧ c.isLower = false := by
    rcases h with h | h
    · exact ⟨'ς', h, caseFixed_of_lowerChar_eq (by decide), by decide⟩
    · exact ⟨'σ', h, caseFixed_of_lowerChar_eq (by decide), by decide⟩
  have hnumber : word ≠ Literal.number.text := by
    rintro rfl
    exact absurd h (by decide)
  rw [canonicalWord, if_neg hnumber, ReservedWords.lookup_builtin_eq_none hc hfixed hletter]

theorem canonicalWord_map_plainSigma (word : Text) :
    canonicalWord .builtin (word.map plainSigma) = canonicalWord .builtin word := by
  by_cases h : 'ς' ∈ word
  · have hplain : 'σ' ∈ word.map plainSigma := List.mem_map.mpr ⟨'ς', h, by decide⟩
    rw [canonicalWord_of_sigma (Or.inr hplain), canonicalWord_of_sigma (Or.inl h)]
  · have hsame : ∀ c ∈ word, plainSigma c = id c := by
      intro c hc
      refine if_neg ?_
      rintro rfl
      exact h hc
    rw [List.map_congr_left hsame, List.map_id]

namespace Token

theorem ofWord_map_plainSigma (pending : Text) :
    ofWord .builtin (pending.map plainSigma) = ofWord .builtin pending := by
  rw [ofWord, ofWord, List.isEmpty_map, ← List.map_reverse, canonicalWord_map_plainSigma]

/-- The form of its sigmas does not show in the tokens of a code text. -/
theorem ofCodeFrom_map_plainSigma (pending code : Text) :
    ofCodeFrom .builtin (pending.map plainSigma) (code.map plainSigma) =
      ofCodeFrom .builtin pending code := by
  induction code generalizing pending with
  | nil => exact ofWord_map_plainSigma pending
  | cons c rest ih =>
    rw [List.map_cons, ofCodeFrom, ofCodeFrom, isWord_plainSigma]
    by_cases hc : isWord c = true
    · rw [if_pos hc, if_pos hc]
      exact ih (c :: pending)
    · rw [if_neg hc, if_neg hc, ofWord_map_plainSigma, plainSigma_of_not_isWord (by simpa using hc)]
      exact congrArg (_ ++ ofChar c :: ·) (ih [])

theorem ofCode_map_plainSigma (code : Text) :
    ofCode .builtin (code.map plainSigma) = ofCode .builtin code :=
  ofCodeFrom_map_plainSigma [] code

end Token

/-! ## A name in code -/

namespace IsName

variable {word : Text}

theorem canonicalWord_lower (h : IsName word) :
    canonicalWord .builtin word.lower = placeholder := by
  rw [canonicalWord, if_neg h.not_number,
    ReservedWords.lookup_eq_none (lower_lower word) h.not_reserved]

/-- A name between characters that belong to no word shows as the placeholder, and what stands
around it as without it. -/
theorem spacedTokens_append (h : IsName word) {u v : Text}
    (hu : ∀ c ∈ u.getLast?, Text.isWord c = false) (hv : ∀ c ∈ v.head?, Text.isWord c = false) :
    Fragment.spacedTokens .builtin (.code (u ++ word ++ v)) =
      Fragment.spacedTokens .builtin (.code u) ++
        .word placeholder :: Fragment.spacedTokens .builtin (.code v) := by
  have hcollapse : collapseBlanks (u ++ word ++ v) =
      collapseBlanks u ++ (word ++ collapseBlanks v) := by
    have hblank : ∀ c ∈ word, isBlank c = false :=
      fun c hc => isBlank_eq_false_of_isWord (h.isWord c hc)
    rw [List.append_assoc, collapseBlanks_append h.ne_nil hblank]
  have hlast : ∀ c ∈ ((lower (collapseBlanks u)).map plainSigma).getLast?,
      Text.isWord c = false := by
    simpa using isWord_last_lower (isWord_last_collapseBlanks hu)
  have hhead : ∀ c ∈ ((lower (collapseBlanks v)).map plainSigma).head?,
      Text.isWord c = false := by
    simpa using isWord_head_lower (isWord_head_collapseBlanks hv)
  have hne : (lower word).map plainSigma ≠ [] :=
    fun hnil => lowerFrom_ne_nil h.ne_nil (List.map_eq_nil_iff.mp hnil)
  have hword : ∀ c ∈ (lower word).map plainSigma, Text.isWord c = true := by
    simpa using h.isWord_lower
  have htokens := Token.ofCode_append_word .builtin hlast hne hword hhead
  rw [← map_plainSigma_lower_append, ← map_plainSigma_lower_append, ← hcollapse,
    Token.ofCode_map_plainSigma, Token.ofCode_map_plainSigma, Token.ofCode_map_plainSigma,
    canonicalWord_map_plainSigma, h.canonicalWord_lower] at htokens
  exact htokens

/-- A name that stands apart from other words keeps its place between the fragments of the texts on
its two sides. -/
theorem fragments_append (h : IsName word) {a b : Text} (hcode : Mode.code.after a = .code)
    (ha : ∀ c ∈ a.getLast?, Text.isWord c = false) (hb : ∀ c ∈ b.head?, Text.isWord c = false) :
    fragments (a ++ (word ++ b)) =
      Fragment.join (fragments a) (Fragment.consText word (fragments b)) := by
  have hread : (Mode.code.after a).read (word ++ b) =
      Fragment.consText word (Mode.code.read b) := by
    rw [hcode]
    exact Mode.read_code_append_of_ne (fun c hc => not_mark_of_isWord (h.isWord c hc)) b
  have hleft : ∀ s, .code s ∈ (Mode.code.read a).getLast? → NumbersPart s word := by
    intro s hs c hc d hd
    have hword := Mode.forall_last_read hcode (by decide) ha s hs c hc
    exact ⟨fun hc => absurd (hword ▸ hc) Bool.false_ne_true, fun _ => h.head_not_digit d hd⟩
  have hright : ∀ t, .code t ∈ (Mode.code.read b).head? → ∀ c ∈ word.getLast?, ∀ d ∈ t.head?,
      d.isDigit = true → Text.isWord c = false := by
    intro t ht c _ d hd hdigit
    have hword := Mode.forall_head_read (fun _ => PlainBlank.isWord_eq_false) hb t ht d hd
    rw [isDigit_eq_false_of_not_isWord hword] at hdigit
    cases hdigit
  have hslash := head_append_of_isWord h.ne_nil (fun c hc => h.isWord c (List.mem_of_head? hc)) b
  refine fragments_append_code (Or.inl hcode) (fun _ => hslash) hread h.ne_nil ?_
    h.head_not_digit hleft hright
  refine (List.pairwise_of_forall_mem_list fun c hc d _ => ?_).isChain
  exact fun _ => h.isWord c hc

end IsName

/-- A name behind code may be spelled in any way, if it stands apart from other words. -/
theorem normalize_name {a : Text} (hcode : Mode.code.after a = .code)
    (ha : ∀ c ∈ a.getLast?, isWord c = false) {b : Text} (hb : ∀ c ∈ b.head?, isWord c = false)
    {name name' : Text} (h : IsName name) (h' : IsName name') :
    normalize (a ++ name ++ b) = normalize (a ++ name' ++ b) := by
  obtain ⟨front, u, v, back, hu, hv, -, -, hbetween⟩ := exists_fragments_between a b
  have hlast : ∀ c ∈ u.getLast?, isWord c = false := by
    intro c hc
    have hne : u ≠ [] := List.ne_nil_of_mem (List.mem_of_getLast? hc)
    have hcodeLast : .code u ∈ (fragments a).getLast? := by simp [hu, Scan.codeFragment, hne]
    exact forall_last_fragments hcode (by decide) ha hcodeLast c hc
  have hhead : ∀ c ∈ v.head?, isWord c = false := by
    intro c hc
    have hne : v ≠ [] := List.ne_nil_of_mem (List.mem_of_head? hc)
    have hcodeHead : .code v ∈ (fragments b).head? := by simp [hv, Scan.codeFragment, hne]
    exact forall_head_fragments (fun _ => PlainBlank.isWord_eq_false) hb hcodeHead c hc
  have htokens : ∀ {word : Text}, IsName word →
      (fragments (a ++ word ++ b)).flatMap (Fragment.spacedTokens .builtin) =
        front.flatMap (Fragment.spacedTokens .builtin) ++
          ((Fragment.spacedTokens .builtin (.code u) ++
            .word placeholder :: Fragment.spacedTokens .builtin (.code v)) ++
          back.flatMap (Fragment.spacedTokens .builtin)) := by
    intro word hword
    rw [List.append_assoc, hword.fragments_append hcode ha hb, hbetween word hword.ne_nil,
      List.flatMap_append, List.flatMap_cons, hword.spacedTokens_append hlast hhead]
  exact normalizeWith_congr ((htokens h).trans (htokens h').symm)

/-- Greek in capitals behind a dot looks like a name with a digit. -/
theorem normalize_name_behind_dot :
    Mode.code.after ['Σ', '.'] = .code ∧ (∀ c ∈ ['Σ', '.'].getLast?, isWord c = false) ∧
      (∀ c ∈ ['(', '1'].head?, isWord c = false) ∧ IsName ['Ο', 'Σ'] ∧ IsName ['x', '2'] ∧
      normalize (['Σ', '.'] ++ ['Ο', 'Σ'] ++ ['(', '1']) =
        normalize (['Σ', '.'] ++ ['x', '2'] ++ ['(', '1']) :=
  have ha : ∀ c ∈ ['Σ', '.'].getLast?, isWord c = false := by
    rintro c ⟨⟩
    decide
  have hb : ∀ c ∈ ['(', '1'].head?, isWord c = false := by
    rintro c ⟨⟩
    decide
  have hgreek : IsName ['Ο', 'Σ'] := ⟨by simp, List.all_eq_true.mp (by decide),
    by rintro c ⟨⟩; decide, List.all_eq_true.mp (by decide +kernel), by decide +kernel,
    by decide⟩
  have hdigit : IsName ['x', '2'] := ⟨by simp, List.all_eq_true.mp (by decide),
    by rintro c ⟨⟩; decide, List.all_eq_true.mp (by decide), by decide +kernel, by decide⟩
  ⟨by decide, ha, hb, hgreek, hdigit, normalize_name (by decide) ha hb hgreek hdigit⟩

end SourceSimilarity.Canonical
