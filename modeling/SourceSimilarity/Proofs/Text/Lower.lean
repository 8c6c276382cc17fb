import Mathlib.Data.List.Basic
import SourceSimilarity.Proofs.Text.Classes

/-!
# Lower case of a text

Lower case goes character by character but for the sigma, whose form depends on its neighbours. What
stands between words stays, and what comes out of a word is inert: it is no blank and no mark.
Nothing is looked up across a blank.
-/

namespace SourceSimilarity.Text

/-! ## Character by character -/

/-- A character that lower case makes of a word: one of a word again, or the lone dot. -/
def Inert (c : Char) : Prop :=
  isWord c = true ∨ c = '\u0307'

theorem Inert.ne {c d : Char} (h : Inert c) (hd : isWord d = false) (hdot : d ≠ '\u0307') :
    c ≠ d := by
  rintro rfl
  rcases h with hword | rfl
  · rw [hd] at hword
    exact Bool.false_ne_true hword
  · exact hdot rfl

theorem Inert.isBlank_eq_false {c : Char} (h : Inert c) : isBlank c = false := by
  rcases h with hword | rfl
  · exact isBlank_eq_false_of_isWord hword
  · decide

/-- What lower case may put in the place of one character. -/
structure LowerImage (c : Char) (image : Text) : Prop where
  ne_nil : image ≠ []
  of_not_isWord : isWord c = false → image = [c]
  inert : isWord c = true → ∀ d ∈ image, Inert d

theorem lowerImage_lowerChar (c : Char) : LowerImage c (lowerChar c) :=
  ⟨lowerChar_ne_nil c, lowerChar_of_not_isWord, fun h _ hd => isWord_of_mem_lowerChar h hd⟩

theorem lowerImage_sigma (final : Bool) : LowerImage 'Σ' [if final then 'ς' else 'σ'] := by
  refine ⟨List.cons_ne_nil _ _, fun h => absurd h (by decide), fun _ d hd => Or.inl ?_⟩
  rw [List.mem_singleton.mp hd]
  cases final <;> decide

/-- Lower case replaces the first character by an image of it, and goes on. -/
theorem lowerFrom_cons (before : Text) (c : Char) (rest : Text) :
    ∃ image, LowerImage c image ∧
      lowerFrom before (c :: rest) = image ++ lowerFrom (c :: before) rest := by
  by_cases hc : c = 'Σ'
  · subst hc
    exact ⟨_, lowerImage_sigma _, by rw [lowerFrom, if_pos rfl]⟩
  · exact ⟨_, lowerImage_lowerChar c, by rw [lowerFrom, if_neg hc]⟩

/-- The lower case of a text starts with its first character, or with something inert. -/
theorem head_lowerFrom {before text : Text} {d : Char} (h : d ∈ (lowerFrom before text).head?) :
    ∃ c ∈ text.head?, isWord c = false ∧ d = c ∨ isWord c = true ∧ Inert d := by
  cases text with
  | nil => cases h
  | cons c rest =>
    obtain ⟨image, himage, heq⟩ := lowerFrom_cons before c rest
    obtain ⟨e, tail, rfl⟩ := List.exists_cons_of_ne_nil himage.ne_nil
    rw [heq] at h
    obtain rfl := Option.some.inj h
    refine ⟨c, rfl, ?_⟩
    cases hword : isWord c with
    | false =>
      have := himage.of_not_isWord hword
      simp_all
    | true => exact Or.inr ⟨rfl, himage.inert hword _ List.mem_cons_self⟩

theorem lowerFrom_ne_nil {before text : Text} (h : text ≠ []) : lowerFrom before text ≠ [] := by
  obtain ⟨c, rest, rfl⟩ := List.exists_cons_of_ne_nil h
  obtain ⟨image, himage, heq⟩ := lowerFrom_cons before c rest
  rw [heq]
  exact List.append_ne_nil_of_left_ne_nil himage.ne_nil _

/-- The lower case of a text ends with its last character, or with something inert. -/
theorem last_lowerFrom {before text : Text} {d : Char}
    (h : d ∈ (lowerFrom before text).getLast?) :
    ∃ c ∈ text.getLast?, isWord c = false ∧ d = c ∨ isWord c = true ∧ Inert d := by
  induction text generalizing before with
  | nil => cases h
  | cons c rest ih =>
    obtain ⟨image, himage, heq⟩ := lowerFrom_cons before c rest
    rw [heq] at h
    cases rest with
    | nil =>
      refine ⟨c, rfl, ?_⟩
      rw [lowerFrom, List.append_nil] at h
      cases hword : isWord c with
      | false =>
        rw [himage.of_not_isWord hword] at h
        exact Or.inl ⟨rfl, (Option.some.inj h).symm⟩
      | true => exact Or.inr ⟨rfl, himage.inert hword d (List.mem_of_getLast? h)⟩
    | cons e tail =>
      rw [List.getLast?_append_of_ne_nil _ (lowerFrom_ne_nil (List.cons_ne_nil _ _))] at h
      rw [List.getLast?_cons_cons]
      exact ih h

/-- Where no word starts, none starts in lower case. -/
theorem isWord_head_lower {text : Text} (h : ∀ c ∈ text.head?, isWord c = false) :
    ∀ d ∈ (lower text).head?, isWord d = false := by
  intro d hd
  obtain ⟨c, hc, ⟨hword, rfl⟩ | ⟨hword, -⟩⟩ := head_lowerFrom hd
  · exact hword
  · rw [h c hc] at hword
    cases hword

/-- Where no word ends, none ends in lower case. -/
theorem isWord_last_lower {text : Text} (h : ∀ c ∈ text.getLast?, isWord c = false) :
    ∀ d ∈ (lower text).getLast?, isWord d = false := by
  intro d hd
  obtain ⟨c, hc, ⟨hword, rfl⟩ | ⟨hword, -⟩⟩ := last_lowerFrom hd
  · exact hword
  · rw [h c hc] at hword
    cases hword

/-- Everything in the lower case of a text stood in the text, or is inert. -/
theorem mem_lowerFrom {before text : Text} {d : Char} (h : d ∈ lowerFrom before text) :
    d ∈ text ∨ Inert d := by
  induction text generalizing before with
  | nil => cases h
  | cons c rest ih =>
    obtain ⟨image, himage, heq⟩ := lowerFrom_cons before c rest
    rw [heq] at h
    rcases List.mem_append.mp h with hmem | hmem
    · cases hword : isWord c with
      | false =>
        rw [himage.of_not_isWord hword, List.mem_singleton] at hmem
        exact Or.inl (hmem ▸ List.mem_cons_self)
      | true => exact Or.inr (himage.inert hword d hmem)
    · rcases ih hmem with hrest | hinert
      · exact Or.inl (List.mem_cons_of_mem _ hrest)
      · exact Or.inr hinert

/-! ## Across a blank -/

/-- No blank has a case, and none is looked through. -/
theorem isCased_eq_false_of_isBlank {c : Char} (h : isBlank c) :
    isCased c = false ∧ isCaseIgnorable c = false := by
  constructor
  · exact inRanges_eq_false_of_disjoint (by decide) h
  · exact inRanges_eq_false_of_disjoint (by decide +kernel) h

/-- Looking ahead for a cased letter stops at a blank. -/
theorem casedAhead_append_blank {b : Char} (hb : isBlank b) (s t : Text) :
    casedAhead (s ++ b :: t) = casedAhead s := by
  obtain ⟨hcased, hignorable⟩ := isCased_eq_false_of_isBlank hb
  induction s with
  | nil => simp [casedAhead, hcased, hignorable]
  | cons c s ih =>
    cases hc : isCaseIgnorable c with
    | false => simp [casedAhead, hc]
    | true =>
      unfold casedAhead at ih ⊢
      rw [List.cons_append, List.dropWhile_cons_of_pos hc, List.dropWhile_cons_of_pos hc]
      exact ih

theorem lowerFrom_append_blank_left {b : Char} (hb : isBlank b) (s before text : Text) :
    lowerFrom (s ++ b :: before) text = lowerFrom s text := by
  induction text generalizing s with
  | nil => rfl
  | cons c rest ih =>
    rw [lowerFrom, lowerFrom, casedAhead_append_blank hb, ← List.cons_append, ih]

/-- The two sides of a blank go to lower case each on its own. -/
theorem lowerFrom_append_blank {b : Char} (hb : isBlank b) (before s t : Text) :
    lowerFrom before (s ++ b :: t) = lowerFrom before s ++ b :: lower t := by
  induction s generalizing before with
  | nil =>
    have hword := isWord_eq_false_of_isBlank hb
    obtain ⟨image, himage, heq⟩ := lowerFrom_cons before b t
    rw [List.nil_append, heq, himage.of_not_isWord hword]
    exact congrArg (b :: ·) (lowerFrom_append_blank_left hb [] before t)
  | cons c s ih =>
    rw [List.cons_append, lowerFrom, ih, casedAhead_append_blank hb, lowerFrom, List.append_assoc]

theorem lower_append_blank {b : Char} (hb : isBlank b) (s t : Text) :
    lower (s ++ b :: t) = lower s ++ b :: lower t :=
  lowerFrom_append_blank hb [] s t

/-! ## Texts in lower case -/

/-- Lower case leaves the character alone, whatever stands around it. -/
def CaseFixed (c : Char) : Prop :=
  c ≠ 'Σ' ∧ lowerChar c = [c]

instance (c : Char) : Decidable (CaseFixed c) :=
  inferInstanceAs (Decidable (_ ∧ _))

theorem caseFixed_of_not_isWord {c : Char} (h : isWord c = false) : CaseFixed c := by
  refine ⟨?_, lowerChar_of_not_isWord h⟩
  rintro rfl
  exact absurd h (by decide)

theorem caseFixed_of_isLower {c : Char} (h : c.isLower = true) : CaseFixed c := by
  have hascii : isAscii c = true := by
    have hlast := (isLower_iff.mp h).2
    rw [isAscii, decide_eq_true_eq]
    omega
  exact forall_of_isAscii (P := fun c => c.isLower = true → c ≠ 'Σ' ∧ lowerChar c = [c])
    (by decide) hascii h

theorem lowerFrom_of_caseFixed {text : Text} (h : ∀ c ∈ text, CaseFixed c) (before : Text) :
    lowerFrom before text = text := by
  induction text generalizing before with
  | nil => rfl
  | cons c rest ih =>
    obtain ⟨hsigma, hchar⟩ := h c List.mem_cons_self
    rw [lowerFrom, if_neg hsigma, hchar, ih fun d hd => h d (List.mem_cons_of_mem _ hd)]
    rfl

theorem length_le_lowerFrom (before text : Text) :
    text.length ≤ (lowerFrom before text).length := by
  induction text generalizing before with
  | nil => exact Nat.zero_le _
  | cons c rest ih =>
    obtain ⟨image, himage, heq⟩ := lowerFrom_cons before c rest
    have := List.length_pos_iff.mpr himage.ne_nil
    have := ih (c :: before)
    rw [heq, List.length_append, List.length_cons]
    omega

/-- A text that is its own lower case has nothing in it that lower case changes: no image is longer
than one character, for none is shorter. -/
theorem caseFixed_of_lowerFrom_eq {before text : Text} (h : lowerFrom before text = text) :
    ∀ c ∈ text, CaseFixed c := by
  induction text generalizing before with
  | nil => exact fun _ hc => absurd hc List.not_mem_nil
  | cons c rest ih =>
    have hlength := congrArg List.length h
    have hrest := length_le_lowerFrom (c :: before) rest
    have hfirst : CaseFixed c ∧ lowerFrom (c :: before) rest = rest := by
      by_cases hc : c = 'Σ'
      · subst hc
        rw [lowerFrom, if_pos rfl] at h
        have hhead := (List.cons.inj h).1
        split at hhead <;> exact absurd hhead (by decide)
      · rw [lowerFrom, if_neg hc] at h hlength
        obtain ⟨d, tail, himage⟩ := List.exists_cons_of_ne_nil (lowerChar_ne_nil c)
        rw [himage] at h hlength
        obtain ⟨rfl, htail⟩ := List.cons.inj h
        have hnil : tail = [] := by
          rw [← List.length_eq_zero_iff]
          simp only [List.cons_append, List.length_cons, List.length_append] at hlength
          omega
        subst hnil
        exact ⟨⟨hc, himage⟩, htail⟩
    intro d hd
    rcases List.mem_cons.mp hd with rfl | hd
    · exact hfirst.1
    · exact ih hfirst.2 d hd

theorem caseFixed_of_lower_eq {text : Text} (h : lower text = text) : ∀ c ∈ text, CaseFixed c :=
  caseFixed_of_lowerFrom_eq h

theorem caseFixed_of_lowerChar_eq {c : Char} (h : lowerChar c = [c]) : CaseFixed c := by
  refine ⟨?_, h⟩
  rintro rfl
  exact absurd h (by decide)

theorem caseFixed_of_mem_lowerFrom {before text : Text} {d : Char}
    (h : d ∈ lowerFrom before text) : CaseFixed d := by
  induction text generalizing before with
  | nil => cases h
  | cons c rest ih =>
    rw [lowerFrom] at h
    rcases List.mem_append.mp h with himage | hrest
    · by_cases hc : c = 'Σ'
      · rw [if_pos hc, List.mem_singleton] at himage
        subst himage
        refine caseFixed_of_lowerChar_eq ?_
        split <;> decide
      · rw [if_neg hc] at himage
        exact caseFixed_of_lowerChar_eq (lowerChar_of_mem_lowerChar himage)
    · exact ih hrest

theorem CaseFixed.toLower_eq {c : Char} (h : CaseFixed c) : c.toLower = c := by
  cases hascii : isAscii c with
  | true =>
    have hchar := h.2
    rw [lowerChar, if_pos hascii] at hchar
    exact List.singleton_inj.mp hchar
  | false => exact toLower_of_not_isAscii hascii

/-- What is in lower case has no capital letters of ASCII. -/
theorem map_toLower_lower (text : Text) : (lower text).map Char.toLower = lower text := by
  have hmap : (lower text).map Char.toLower = (lower text).map id :=
    List.map_congr_left fun _ hc => (caseFixed_of_mem_lowerFrom hc).toLower_eq
  rw [hmap, List.map_id]

/-- A second time, lower case changes nothing. -/
theorem lower_lower (text : Text) : lower (lower text) = lower text :=
  lowerFrom_of_caseFixed (fun _ hc => caseFixed_of_mem_lowerFrom hc) []

theorem mem_lowerFrom_of_caseFixed {c : Char} (hc : CaseFixed c) {text : Text} (h : c ∈ text)
    (before : Text) : c ∈ lowerFrom before text := by
  induction text generalizing before with
  | nil => cases h
  | cons d rest ih =>
    rw [lowerFrom]
    rcases List.mem_cons.mp h with rfl | hrest
    · rw [if_neg hc.1, hc.2]
      exact List.mem_cons_self
    · exact List.mem_append_right _ (ih hrest _)

/-! ## The two small sigmas -/

/-- The small sigma in the form that it has inside words. -/
def plainSigma (c : Char) : Char :=
  if c = 'ς' then 'σ' else c

@[simp] theorem isWord_plainSigma (c : Char) : isWord (plainSigma c) = isWord c := by
  unfold plainSigma
  split
  · rename_i hc
    subst hc
    decide
  · rfl

theorem plainSigma_of_not_isWord {c : Char} (h : isWord c = false) : plainSigma c = c := by
  unfold plainSigma
  rw [if_neg]
  rintro rfl
  exact absurd h (by decide)

/-- But for the form of its sigmas, a text goes to lower case character by character. -/
theorem map_plainSigma_lowerFrom (before text : Text) :
    (lowerFrom before text).map plainSigma =
      text.flatMap fun c => (lowerChar c).map plainSigma := by
  induction text generalizing before with
  | nil => rfl
  | cons c rest ih =>
    rw [lowerFrom, List.map_append, ih, List.flatMap_cons]
    by_cases hc : c = 'Σ'
    · subst hc
      have hsigma : lowerChar 'Σ' = ['σ'] := by decide
      rw [if_pos rfl, hsigma]
      split <;> rfl
    · rw [if_neg hc]

theorem map_plainSigma_lower_append (s t : Text) :
    (lower (s ++ t)).map plainSigma = (lower s).map plainSigma ++ (lower t).map plainSigma := by
  simp [lower, map_plainSigma_lowerFrom]

end SourceSimilarity.Text
