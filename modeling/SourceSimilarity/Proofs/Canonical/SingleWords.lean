import SourceSimilarity.Proofs.Canonical.Idempotence

/-!
# Texts that are one word

A text of word characters that starts with no digit is one word to every pass up to the last one.
That one cuts words out of the lower case, where the dotted capital I has left a mark that belongs
to no word. So the text becomes one word just if it has no such letter.
-/

namespace SourceSimilarity

namespace Text

/-! ## The mark of the dotted capital I -/

theorem dot_mem_lowerChar_iff {c : Char} (h : isWord c = true) :
    '\u0307' ∈ lowerChar c ↔ c = 'İ' := by
  have hdot : isWord '\u0307' = false := by decide +kernel
  constructor
  · intro hmem
    unfold lowerChar at hmem
    split at hmem
    · rename_i hascii
      rw [List.mem_singleton] at hmem
      rw [hmem, isWord_toLower hascii h] at hdot
      cases hdot
    · split at hmem
      · assumption
      · rw [List.mem_singleton] at hmem
        rw [hmem, isWord_lowerPartner h] at hdot
        cases hdot
  · rintro rfl
    decide

theorem dot_mem_lowerFrom_iff {text : Text} (h : ∀ c ∈ text, isWord c = true) (before : Text) :
    '\u0307' ∈ lowerFrom before text ↔ 'İ' ∈ text := by
  induction text generalizing before with
  | nil => simp [lowerFrom]
  | cons c rest ih =>
    have hrest := ih (fun d hd => h d (List.mem_cons_of_mem _ hd)) (c :: before)
    rw [lowerFrom, List.mem_append, hrest, List.mem_cons, eq_comm (a := 'İ')]
    by_cases hc : c = 'Σ'
    · subst hc
      rw [if_pos rfl, List.mem_singleton]
      split <;> simp
    · rw [if_neg hc, dot_mem_lowerChar_iff (h c List.mem_cons_self)]

end Text

namespace Canonical

open Text

/-- Nothing is dropped in front of a text that has nothing unwanted. -/
theorem dropWhile_of_forall {p : Char → Bool} {text : Text} (h : ∀ c ∈ text, p c = false) :
    text.dropWhile p = text := by
  cases text with
  | nil => rfl
  | cons c rest => exact List.dropWhile_cons_of_neg (by simp [h c List.mem_cons_self])

section Word

variable {word : Text} (hne : word ≠ []) (hword : ∀ c ∈ word, isWord c = true)
  (hhead : ∀ c ∈ word.head?, c.isDigit = false)
include hne hword hhead

/-! ## One word up to the last pass -/

theorem fragments_of_isWord : fragments word = [.code word] := by
  have hread : Mode.code.read word = [.code word] := by
    have happend := Mode.read_code_append_of_ne (fun c hc => not_mark_of_isWord (hword c hc)) []
    rwa [List.append_nil, Mode.read_nil, Fragment.consText_eq_join hne, Fragment.join_nil]
      at happend
  have hchain : word.IsChain fun a b => b.isDigit = true → isWord a = true := by
    refine (List.pairwise_of_forall_mem_list fun a ha b _ => ?_).isChain
    exact fun _ => hword a ha
  rw [fragments_eq, hread, List.flatMap_cons, List.flatMap_nil, List.append_nil,
    Fragment.cutNumbers_plain hne hchain hhead]

theorem laidOut_of_isWord : laidOut word = [.code word] := by
  have hblank : ∀ c ∈ word, isBlank c = false := fun c hc => isBlank_eq_false_of_isWord (hword c hc)
  have hcollapse : collapseBlanks word = word := by
    simpa [collapseBlanks, collapseFrom] using collapseBlanks_append hne hblank [] []
  have hfront : word.dropWhile isBlank = word := dropWhile_of_forall hblank
  have hback : dropTrailing isBlank word = word := by
    rw [dropTrailing, dropWhile_of_forall (by simpa using hblank), List.reverse_reverse]
  rw [laidOut, fragments_of_isWord hne hword hhead, List.map_cons, List.map_nil, Fragment.mapCode,
    hcollapse, Fragment.trim, Fragment.trimStart, hfront, Fragment.trimEnd, hback]

theorem normalizeWith_of_isWord (reserved : ReservedWords) :
    normalizeWith reserved word = replaceWords reserved word.lower := by
  rw [normalizeWith, laidOut_of_isWord hne hword hhead]
  exact List.append_nil _

end Word

/-! ## The words of its lower case -/

theorem mem_of_mem_splitAt {separator : Char} {text stretch : Text}
    (h : stretch ∈ splitAt separator text) : ∀ c ∈ stretch, c ∈ text := by
  fun_induction splitAt separator text generalizing stretch with
  | case1 =>
    obtain rfl := List.mem_singleton.mp h
    exact fun c hc => hc
  | case2 rest ih =>
    intro c hc
    rcases List.mem_cons.mp h with rfl | hrest
    · cases hc
    · exact List.mem_cons_of_mem _ (ih hrest c hc)
  | case3 d rest hd part parts hsplit ih =>
    intro c hc
    rcases List.mem_cons.mp h with rfl | hparts
    · rcases List.mem_cons.mp hc with rfl | hpart
      · exact List.mem_cons_self
      · exact List.mem_cons_of_mem _ (ih (by simp [hsplit]) c hpart)
    · exact List.mem_cons_of_mem _ (ih (by simp [hsplit, hparts]) c hc)
  | case4 d rest hd hsplit ih =>
    obtain rfl := List.mem_singleton.mp h
    exact fun c hc => List.mem_singleton.mp hc ▸ List.mem_cons_self

theorem splitAt_ne_nil (separator : Char) (text : Text) : splitAt separator text ≠ [] := by
  fun_cases splitAt separator text <;> simp_all

theorem splitAt_of_not_mem {separator : Char} {text : Text} (h : separator ∉ text) :
    splitAt separator text = [text] := by
  induction text with
  | nil => rfl
  | cons c rest ih =>
    rw [List.mem_cons, not_or] at h
    rw [splitAt, if_neg (Ne.symm h.1), ih h.2]

/-- What a canonical text shows for a stretch of a text, which may be empty. -/
def shownStretch (reserved : ReservedWords) (stretch : Text) : Text :=
  if stretch = [] then [] else canonicalWord reserved stretch

/-- What belongs to no word is copied. -/
theorem mem_replaceWordsFrom (reserved : ReservedWords) {c : Char} (hc : isWord c = false)
    {text : Text} (h : c ∈ text) (pending : Text) : c ∈ replaceWordsFrom reserved pending text := by
  induction text generalizing pending with
  | nil => cases h
  | cons d rest ih =>
    rw [replaceWordsFrom]
    rcases List.mem_cons.mp h with rfl | hrest
    · rw [if_neg (by simp [hc])]
      exact List.mem_append_right _ List.mem_cons_self
    · split
      · exact ih hrest _
      · exact List.mem_append_right _ (List.mem_cons_of_mem _ (ih hrest _))

theorem finishWord_reverse (reserved : ReservedWords) (stretch : Text) :
    finishWord reserved stretch.reverse = shownStretch reserved stretch := by
  rw [finishWord, shownStretch, List.reverse_reverse, List.isEmpty_reverse]
  simp only [List.isEmpty_iff]

/-- Between the marks of dotted capitals stand words, and each is replaced on its own. The first one
goes on the unfinished word. -/
theorem replaceWordsFrom_of_inert (reserved : ReservedWords) {text : Text}
    (h : ∀ c ∈ text, Inert c) {first : Text} {others : List Text}
    (hsplit : splitAt '\u0307' text = first :: others) (pending : Text) :
    replaceWordsFrom reserved pending.reverse text =
      List.intercalate ['\u0307'] (((pending ++ first) :: others).map (shownStretch reserved)) := by
  induction text generalizing first others pending with
  | nil =>
    obtain ⟨rfl, rfl⟩ := List.cons.inj hsplit
    rw [replaceWordsFrom, finishWord_reverse, List.append_nil, List.map_cons, List.map_nil,
      List.intercalate_singleton]
  | cons c rest ih =>
    have ih := @ih (fun d hd => h d (List.mem_cons_of_mem _ hd))
    obtain ⟨stretch, stretches, hrest⟩ := List.exists_cons_of_ne_nil (splitAt_ne_nil '\u0307' rest)
    rw [splitAt, hrest] at hsplit
    rw [replaceWordsFrom]
    rcases h c List.mem_cons_self with hword | rfl
    · have hc : c ≠ '\u0307' := by
        rintro rfl
        exact absurd hword (by decide +kernel)
      rw [if_neg hc] at hsplit
      obtain ⟨rfl, rfl⟩ := List.cons.inj hsplit
      have hgrown := ih hrest (pending ++ [c])
      rw [List.reverse_append, List.append_assoc] at hgrown
      rw [if_pos hword]
      exact hgrown
    · rw [if_pos rfl] at hsplit
      obtain ⟨rfl, rfl⟩ := List.cons.inj hsplit
      have hnext : replaceWordsFrom reserved [] rest =
          List.intercalate ['\u0307'] ((stretch :: stretches).map (shownStretch reserved)) :=
        ih hrest []
      rw [if_neg (by decide +kernel), finishWord_reverse, hnext, List.append_nil, List.map_cons,
        List.map_cons, List.map_cons, List.intercalate_cons_cons, List.append_assoc]
      rfl

/-! ## One word -/

/-- What a canonical text shows for a word in lower case: a reserved word and the token of a number
as they are, the placeholder for any other word, and nothing for none. -/
def shownWord (word : Text) : Text :=
  if word = [] then []
  else if word = Literal.number.text then Literal.number.text
  else if String.ofList word ∈ ReservedWords.builtin.words then word
  else placeholder

theorem dot_not_mem_shownWord (word : Text) : '\u0307' ∉ shownWord word := by
  unfold shownWord
  split_ifs with hnil hnumber hmem
  · exact List.not_mem_nil
  · decide
  · intro hdot
    exact absurd (ReservedWords.isLower_of_mem_builtin hmem '\u0307' (by simpa using hdot))
      (by decide)
  · decide

theorem shownStretch_builtin {stretch : Text} (h : stretch.lower = stretch) :
    shownStretch .builtin stretch = shownWord stretch := by
  unfold shownStretch shownWord canonicalWord
  split_ifs with hnil hnumber hmem
  · rfl
  · exact hnumber
  · rw [ReservedWords.lookup_entry ReservedWords.builtin_wellFormed hmem]
    exact String.toList_ofList
  · rw [ReservedWords.lookup_eq_none h hmem]

section Word

variable {word : Text} (hne : word ≠ []) (hword : ∀ c ∈ word, isWord c = true)
  (hhead : ∀ c ∈ word.head?, c.isDigit = false)
include hne hword hhead

/-- Of a text that is one word, the words of its lower case show, and the marks between them. -/
theorem normalize_eq_intercalate : normalize word =
    List.intercalate ['\u0307'] ((splitAt '\u0307' word.lower).map shownWord) := by
  obtain ⟨first, others, hsplit⟩ := List.exists_cons_of_ne_nil (splitAt_ne_nil '\u0307' word.lower)
  have hinert : ∀ c ∈ word.lower, Inert c := by
    intro c hc
    rcases mem_lowerFrom hc with hmem | hinert
    · exact Or.inl (hword c hmem)
    · exact hinert
  have hshown : ∀ stretch ∈ splitAt '\u0307' word.lower,
      shownStretch .builtin stretch = shownWord stretch := fun stretch hstretch =>
    shownStretch_builtin (lowerFrom_of_caseFixed (fun c hc =>
      caseFixed_of_mem_lowerFrom (mem_of_mem_splitAt hstretch c hc)) [])
  have hreplaced := replaceWordsFrom_of_inert .builtin hinert hsplit []
  rw [List.nil_append, ← hsplit, List.map_congr_left hshown] at hreplaced
  rw [normalize, normalizeWith_of_isWord hne hword hhead]
  exact hreplaced

/-- The dotted capital I is all that keeps a text that is one word from becoming one. -/
theorem normalize_eq_shownWord_iff : normalize word = shownWord word.lower ↔ 'İ' ∉ word := by
  have hdotted : '\u0307' ∈ word.lower ↔ 'İ' ∈ word := dot_mem_lowerFrom_iff hword []
  constructor
  · intro hshown hmem
    have hdot : '\u0307' ∈ normalize word := by
      rw [normalize, normalizeWith_of_isWord hne hword hhead]
      exact mem_replaceWordsFrom .builtin (by decide +kernel) (hdotted.mpr hmem) []
    exact dot_not_mem_shownWord word.lower (hshown ▸ hdot)
  · intro hmem
    rw [normalize_eq_intercalate hne hword hhead, splitAt_of_not_mem (mt hdotted.mp hmem),
      List.map_cons, List.map_nil, List.intercalate_singleton]

end Word

/-- A text of word characters that starts with no digit shows as one word just if it has no dotted
capital I: as a reserved word, the token of a number or the placeholder, by its lower case. With
such letters in it, it shows as the words between the marks that these leave, and the marks. -/
theorem normalize_single_word {word : Text} (hne : word ≠ [])
    (hword : ∀ c ∈ word, isWord c = true) (hhead : ∀ c ∈ word.head?, c.isDigit = false) :
    (normalize word = shownWord word.lower ↔ 'İ' ∉ word) ∧
      normalize word =
        List.intercalate ['\u0307'] ((splitAt '\u0307' word.lower).map shownWord) :=
  ⟨normalize_eq_shownWord_iff hne hword hhead, normalize_eq_intercalate hne hword hhead⟩

/-- Behind the mark the lower case goes on with a keyword. -/
theorem normalize_single_word_dotted :
    ['x', 'İ', 'I', 'F'] ≠ [] ∧ (∀ c ∈ ['x', 'İ', 'I', 'F'], isWord c = true) ∧
      (∀ c ∈ ['x', 'İ', 'I', 'F'].head?, c.isDigit = false) ∧
      normalize ['x', 'İ', 'I', 'F'] ≠ shownWord (lower ['x', 'İ', 'I', 'F']) ∧
      normalize ['x', 'İ', 'I', 'F'] = ['v', 'a', 'r', '\u0307', 'i', 'f'] := by
  have hword : ∀ c ∈ ['x', 'İ', 'I', 'F'], isWord c = true := List.all_eq_true.mp (by decide)
  have hhead : ∀ c ∈ ['x', 'İ', 'I', 'F'].head?, c.isDigit = false := by
    rintro c ⟨⟩
    decide
  obtain ⟨hone, htext⟩ := normalize_single_word (by simp) hword hhead
  have hlower : lower ['x', 'İ', 'I', 'F'] = ['x', 'i', '\u0307', 'i', 'f'] := by decide
  refine ⟨by simp, hword, hhead, fun heq => absurd (by simp) (hone.mp heq), ?_⟩
  rw [htext, hlower]
  decide +kernel

/-- Not every word shows as one word. -/
theorem not_forall_normalize_eq_shownWord :
    ¬ ∀ word : Text, word ≠ [] → (∀ c ∈ word, isWord c = true) →
      (∀ c ∈ word.head?, c.isDigit = false) → normalize word = shownWord word.lower := by
  intro h
  have hword : ∀ c ∈ ['İ'], isWord c = true := List.all_eq_true.mp (by decide)
  have hhead : ∀ c ∈ ['İ'].head?, c.isDigit = false := by
    rintro c ⟨⟩
    decide
  have hne : (['İ'] : Text) ≠ [] := by simp
  exact (normalize_eq_shownWord_iff hne hword hhead).mp (h _ hne hword hhead) (by simp)

end Canonical

end SourceSimilarity
