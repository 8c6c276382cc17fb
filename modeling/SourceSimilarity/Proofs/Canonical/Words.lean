import SourceSimilarity.Canonical.Token
import SourceSimilarity.Proofs.Canonical.Layout
import SourceSimilarity.Proofs.Canonical.ReservedWords

/-!
# Replacing the words

Replacing the words of a text shows it as a list of tokens. Text on the two sides of a character
that belongs to no word is replaced each on its own, and everything here follows from that.
-/

namespace SourceSimilarity.Canonical

open Text

/-! ## Canonical words -/

theorem isCanonicalWord_canonicalWord (reserved : ReservedWords) (word : Text) :
    Token.IsCanonicalWord reserved (canonicalWord reserved word) := by
  unfold canonicalWord
  split
  · rename_i hnumber
    exact Or.inl hnumber
  · split
    · rename_i entry hentry
      exact Or.inr (Or.inr ⟨entry, (ReservedWords.eq_of_lookup hentry).2, rfl⟩)
    · exact Or.inr (Or.inl rfl)

theorem canonicalWord_ne_nil (reserved : ReservedWords) {word : Text} (h : word ≠ []) :
    canonicalWord reserved word ≠ [] := by
  unfold canonicalWord
  split
  · exact h
  · split
    · rename_i entry hentry
      rcases (ReservedWords.eq_of_lookup hentry).1 with rfl | rfl
      · simpa [lowerString] using show lower word ≠ [] from lowerFrom_ne_nil h
      · simpa using h
    · exact List.cons_ne_nil _ _

/-! ## Tokens of code -/

namespace Token

@[simp] theorem isBlank_ofChar (c : Char) : (ofChar c).isBlank = Text.isBlank c := by
  unfold ofChar
  split
  · simp_all [isBlank]
  · simp_all [isBlank]

@[simp] theorem text_ofChar (c : Char) : (ofChar c).text = [c] := by
  unfold ofChar
  split <;> rfl

theorem Valid.text_ne_nil {reserved : ReservedWords} {token : Token} (h : token.Valid reserved) :
    token.text ≠ [] := by
  cases token with
  | word spelling => exact h.1
  | string => exact List.cons_ne_nil _ _
  | character => exact List.cons_ne_nil _ _
  | blank c => exact List.cons_ne_nil _ _
  | mark c => exact List.cons_ne_nil _ _

/-- The token of the unfinished word `pending`, given backwards, once it is finished. -/
def ofWord (reserved : ReservedWords) (pending : Text) : List Token :=
  if pending.isEmpty then [] else [word (canonicalWord reserved pending.reverse)]

/-- The tokens of a code text that stands after the unfinished word `pending`, given backwards. -/
def ofCodeFrom (reserved : ReservedWords) (pending : Text) : Text → List Token
  | [] => ofWord reserved pending
  | c :: rest =>
    if isWord c then ofCodeFrom reserved (c :: pending) rest
    else ofWord reserved pending ++ ofChar c :: ofCodeFrom reserved [] rest

/-- The tokens of a code text. -/
def ofCode (reserved : ReservedWords) (text : Text) : List Token :=
  ofCodeFrom reserved [] text

variable (reserved : ReservedWords)

theorem flatMap_text_ofWord (pending : Text) :
    (ofWord reserved pending).flatMap text = finishWord reserved pending := by
  unfold ofWord finishWord
  split
  · rfl
  · rw [List.flatMap_cons, List.flatMap_nil, List.append_nil, text]

theorem flatMap_text_ofCodeFrom (pending code : Text) :
    (ofCodeFrom reserved pending code).flatMap text = replaceWordsFrom reserved pending code := by
  induction code generalizing pending with
  | nil => exact flatMap_text_ofWord reserved pending
  | cons c rest ih =>
    rw [ofCodeFrom, replaceWordsFrom]
    split
    · exact ih (c :: pending)
    · rw [List.flatMap_append, List.flatMap_cons, flatMap_text_ofWord, text_ofChar, ih]
      rfl

/-- The tokens of a code text show it with its words replaced. -/
theorem flatMap_text_ofCode (code : Text) :
    (ofCode reserved code).flatMap text = replaceWords reserved code :=
  flatMap_text_ofCodeFrom reserved [] code

/-- The two sides of a character that belongs to no word have their tokens each on its own. -/
theorem ofCodeFrom_append_cons {c : Char} (hc : isWord c = false) (pending s t : Text) :
    ofCodeFrom reserved pending (s ++ c :: t) =
      ofCodeFrom reserved pending s ++ ofChar c :: ofCode reserved t := by
  induction s generalizing pending with
  | nil =>
    rw [List.nil_append, ofCodeFrom, ofCodeFrom, if_neg (by simp [hc]), ofCode]
  | cons d s ih =>
    rw [List.cons_append, ofCodeFrom, ofCodeFrom]
    split
    · exact ih (d :: pending)
    · rw [ih, List.append_assoc, List.cons_append]

theorem ofCode_append_cons {c : Char} (hc : isWord c = false) (s t : Text) :
    ofCode reserved (s ++ c :: t) = ofCode reserved s ++ ofChar c :: ofCode reserved t :=
  ofCodeFrom_append_cons reserved hc [] s t

theorem ofCode_cons {c : Char} (hc : isWord c = false) (t : Text) :
    ofCode reserved (c :: t) = ofChar c :: ofCode reserved t :=
  ofCode_append_cons reserved hc [] t

/-- Where no word goes on, the unfinished word is finished. -/
theorem ofCodeFrom_of_head {text : Text}
    (h : ∀ c ∈ text.head?, isWord c = false) (pending : Text) :
    ofCodeFrom reserved pending text = ofWord reserved pending ++ ofCode reserved text := by
  cases text with
  | nil => simp [ofCode, ofCodeFrom, ofWord]
  | cons c rest =>
    rw [ofCode_cons reserved (h c rfl)]
    exact ofCodeFrom_append_cons reserved (h c rfl) pending [] rest

/-- The characters of a word go on the unfinished word. -/
theorem ofCodeFrom_append_word {word : Text}
    (h : ∀ c ∈ word, isWord c = true) (pending text : Text) :
    ofCodeFrom reserved pending (word ++ text) =
      ofCodeFrom reserved (word.reverse ++ pending) text := by
  induction word generalizing pending with
  | nil => rfl
  | cons c word ih =>
    rw [List.cons_append, ofCodeFrom, if_pos (h c List.mem_cons_self),
      ih (fun d hd => h d (List.mem_cons_of_mem _ hd)), List.reverse_cons, List.append_assoc]
    rfl

/-- A word between characters that belong to none is replaced on its own. -/
theorem ofCode_append_word {s word t : Text} (hs : ∀ c ∈ s.getLast?, isWord c = false)
    (hne : word ≠ []) (hword : ∀ c ∈ word, isWord c = true)
    (ht : ∀ c ∈ t.head?, isWord c = false) : ofCode reserved (s ++ (word ++ t)) =
      ofCode reserved s ++ Token.word (canonicalWord reserved word) :: ofCode reserved t := by
  have hfront : ofCode reserved (word ++ t) =
      Token.word (canonicalWord reserved word) :: ofCode reserved t := by
    rw [ofCode, ofCodeFrom_append_word reserved hword, List.append_nil,
      ofCodeFrom_of_head reserved ht, ofWord, if_neg (by simpa using hne), List.reverse_reverse]
    rfl
  rcases List.eq_nil_or_concat s with rfl | ⟨init, d, rfl⟩
  · exact hfront
  · have hd : isWord d = false := hs d (by simp)
    rw [List.concat_eq_append, List.append_assoc, List.singleton_append,
      ofCode_append_cons reserved hd, ofCode_append_cons reserved hd, hfront, List.append_assoc]
    rfl

/-- Code in front starts with a word, or with the first character. -/
theorem head_ofCodeFrom {pending code : Text} {token : Token}
    (h : token ∈ (ofCodeFrom reserved pending code).head?) :
    (∃ spelling, token = word spelling) ∨
      pending = [] ∧ ∃ c ∈ code.head?, isWord c = false ∧ token = ofChar c := by
  have hpending : ∀ {p : Text} {rest : List Token}, p ≠ [] →
      token ∈ (ofWord reserved p ++ rest).head? → ∃ spelling, token = word spelling := by
    intro p rest hp hmem
    rw [ofWord, if_neg (by simpa using hp)] at hmem
    exact ⟨_, (Option.some.inj hmem).symm⟩
  induction code generalizing pending with
  | nil =>
    cases pending with
    | nil => cases h
    | cons d pending =>
      rw [ofCodeFrom, ← List.append_nil (ofWord reserved _)] at h
      exact Or.inl (hpending (List.cons_ne_nil _ _) h)
  | cons c rest ih =>
    rw [ofCodeFrom] at h
    split at h
    · rcases ih h with hword | ⟨hnil, -⟩
      · exact Or.inl hword
      · exact absurd hnil (List.cons_ne_nil _ _)
    · rename_i hc
      cases pending with
      | nil => exact Or.inr ⟨rfl, c, rfl, by simpa using hc, (Option.some.inj h).symm⟩
      | cons d pending => exact Or.inl (hpending (List.cons_ne_nil _ _) h)

theorem ofCodeFrom_ne_nil {pending code : Text} (h : pending = [] → code ≠ []) :
    ofCodeFrom reserved pending code ≠ [] := by
  induction code generalizing pending with
  | nil =>
    cases pending with
    | nil => exact absurd rfl (h rfl)
    | cons d pending => exact List.cons_ne_nil _ _
  | cons c rest ih =>
    rw [ofCodeFrom]
    split
    · exact ih fun hnil => nomatch hnil
    · exact List.append_ne_nil_of_right_ne_nil _ (List.cons_ne_nil _ _)

/-- Code ends with a blank only if its text does. -/
theorem last_ofCodeFrom_blank {pending code : Text} {token : Token}
    (h : token ∈ (ofCodeFrom reserved pending code).getLast?) (hblank : token.isBlank = true) :
    ∃ c ∈ code.getLast?, Text.isBlank c = true := by
  induction code generalizing pending with
  | nil =>
    unfold ofCodeFrom ofWord at h
    split at h
    · cases h
    · obtain rfl := Option.some.inj h
      cases hblank
  | cons c rest ih =>
    have hlast : (∃ d ∈ rest.getLast?, Text.isBlank d = true) →
        ∃ d ∈ (c :: rest).getLast?, Text.isBlank d = true := by
      rintro ⟨d, hd, hdblank⟩
      exact ⟨d, List.mem_getLast?_cons hd, hdblank⟩
    rw [ofCodeFrom] at h
    split at h
    · exact hlast (ih h)
    · rw [List.getLast?_append_of_ne_nil _ (List.cons_ne_nil _ _)] at h
      by_cases hrest : rest = []
      · subst hrest
        obtain rfl : ofChar c = token := Option.some.inj h
        exact ⟨c, rfl, by simpa using hblank⟩
      · rw [List.getLast?_cons_of_ne_nil (ofCodeFrom_ne_nil reserved fun _ => hrest)] at h
        exact hlast (ih h)

/-- The tokens of spaced code stand side by side as they may. -/
theorem isChain_ofCodeFrom {code : Text} (h : code.IsChain Spaced) (pending : Text) :
    (ofCodeFrom reserved pending code).IsChain Apart := by
  induction code generalizing pending with
  | nil =>
    unfold ofCodeFrom ofWord
    split
    · exact .nil
    · exact .singleton _
  | cons c rest ih =>
    rw [ofCodeFrom]
    split
    · exact ih h.tail _
    · -- a word may follow any character outside words; another one followed it in the text
      have hrest : (ofChar c :: ofCodeFrom reserved [] rest).IsChain Apart := by
        refine (ih h.tail []).cons fun token htoken => ?_
        rcases head_ofCodeFrom reserved htoken with ⟨spelling, rfl⟩ | ⟨-, d, hd, -, rfl⟩
        · unfold ofChar
          split <;> trivial
        · have hspaced := h.rel_head? hd
          unfold ofChar
          split <;> split <;> simp_all [Apart, Spaced]
      unfold ofWord
      split
      · exact hrest
      · refine hrest.cons fun token htoken => ?_
        obtain rfl := Option.some.inj htoken
        unfold ofChar
        split <;> trivial

/-- The tokens of spaced code are those of a canonical text. -/
theorem valid_ofCodeFrom {code : Text} (hquote : ∀ c ∈ code, isQuote c = false)
    (hplain : ∀ c ∈ code, Text.isBlank c = true → PlainBlank c) (pending : Text) :
    ∀ token ∈ ofCodeFrom reserved pending code, token.Valid reserved := by
  have hword : ∀ p, ∀ token ∈ ofWord reserved p, token.Valid reserved := by
    intro p token htoken
    unfold ofWord at htoken
    split at htoken
    · cases htoken
    · rename_i hp
      obtain rfl := List.mem_singleton.mp htoken
      refine ⟨canonicalWord_ne_nil reserved ?_, isCanonicalWord_canonicalWord reserved _⟩
      simpa using hp
  induction code generalizing pending with
  | nil => exact hword pending
  | cons c rest ih =>
    have ih := ih (fun d hd => hquote d (List.mem_cons_of_mem _ hd))
      (fun d hd => hplain d (List.mem_cons_of_mem _ hd))
    rw [ofCodeFrom]
    split
    · exact ih _
    · rename_i hc
      intro token htoken
      rcases List.mem_append.mp htoken with htoken | htoken
      · exact hword pending token htoken
      · rcases List.mem_cons.mp htoken with rfl | htoken
        · unfold ofChar
          split
          · rename_i hblank
            exact hplain c List.mem_cons_self hblank
          · rename_i hblank
            exact ⟨by simpa using hc, by simpa using hblank, hquote c List.mem_cons_self⟩
        · exact ih [] token htoken

end Token

end SourceSimilarity.Canonical
