import SourceSimilarity.Text.Blank
import SourceSimilarity.Text.Case
import SourceSimilarity.Text.Word

/-!
# Words, blanks and letter case

How the classes of characters lie to each other. No blank belongs to a word. A character that
belongs to no word has no case, so lower case leaves it alone. A character of a word goes to
characters of a word, but for the one mark that the dotted capital I leaves behind.
-/

namespace SourceSimilarity.Text

/-! ## Tables -/

theorem inRanges_iff {ranges : List (Nat × Nat)} {c : Char} :
    inRanges ranges c ↔ ∃ r ∈ ranges, r.1 ≤ c.toNat ∧ c.toNat ≤ r.2 := by
  simp [inRanges, List.any_eq_true]

/-- No range of one table meets a range of the other. The comparisons are those that the kernel
computes at once, since whole tables are checked with this. -/
def disjointRanges (ranges others : List (Nat × Nat)) : Bool :=
  ranges.all fun r => others.all fun q => Nat.blt r.2 q.1 || Nat.blt q.2 r.1

theorem inRanges_eq_false_of_disjoint {ranges others : List (Nat × Nat)}
    (h : disjointRanges ranges others) {c : Char} (hc : inRanges ranges c) :
    inRanges others c = false := by
  rw [Bool.eq_false_iff]
  intro hother
  obtain ⟨r, hr, hr1, hr2⟩ := inRanges_iff.mp hc
  obtain ⟨q, hq, hq1, hq2⟩ := inRanges_iff.mp hother
  have hapart := List.all_eq_true.mp (List.all_eq_true.mp h r hr) q hq
  simp only [Bool.or_eq_true, Nat.blt_eq] at hapart
  omega

/-! ## ASCII -/

theorem isLower_iff {c : Char} : c.isLower = true ↔ 97 ≤ c.toNat ∧ c.toNat ≤ 122 := by
  rw [show c.isLower = (decide (97 ≤ c.val) && decide (c.val ≤ 122)) from rfl, Bool.and_eq_true,
    decide_eq_true_eq, decide_eq_true_eq]
  rfl

theorem isUpper_iff {c : Char} : c.isUpper = true ↔ 65 ≤ c.toNat ∧ c.toNat ≤ 90 := by
  rw [show c.isUpper = decide (65 ≤ c.val ∧ c.val ≤ 90) from rfl, decide_eq_true_eq]
  rfl

theorem isDigit_iff {c : Char} : c.isDigit = true ↔ 48 ≤ c.toNat ∧ c.toNat ≤ 57 := by
  rw [show c.isDigit = (decide (48 ≤ c.val) && decide (c.val ≤ 57)) from rfl, Bool.and_eq_true,
    decide_eq_true_eq, decide_eq_true_eq]
  rfl

theorem isAlphanum_eq (c : Char) : c.isAlphanum = (c.isUpper || c.isLower || c.isDigit) := rfl

/-- What holds below code point 128 holds of every ASCII character. -/
theorem forall_of_isAscii {P : Char → Prop} (h : ∀ n < 128, P (Char.ofNat n)) {c : Char}
    (hc : isAscii c) : P c := by
  simpa using h c.toNat (by simpa [isAscii] using hc)

theorem toLower_of_not_isAscii {c : Char} (h : isAscii c = false) : c.toLower = c := by
  refine dif_neg fun hcapital => ?_
  have hle : c.toNat ≤ 90 := hcapital.2
  rw [isAscii, decide_eq_false_iff_not] at h
  omega

/-! ## Tables of letters -/

/-- The table of letters and digits starts above ASCII and skips the surrogates. -/
theorem alphanumericRanges_valid : ∀ r ∈ alphanumericRanges,
    128 ≤ r.1 ∧ (r.2 < 0xD800 ∨ 0xDFFF < r.1 ∧ r.2 < 0x110000) := by
  decide +kernel

/-- The code points from `first` to `last` lie in one range of a table. -/
def within (ranges : List (Nat × Nat)) (first last : Nat) : Bool :=
  ranges.any fun r => Nat.ble r.1 first && Nat.ble last r.2

theorem within_iff {ranges : List (Nat × Nat)} {first last : Nat} :
    within ranges first last ↔ ∃ r ∈ ranges, r.1 ≤ first ∧ last ≤ r.2 := by
  simp [within, List.any_eq_true]

/-- Every letter with a lower-case partner stands in the table of letters and digits. Most runs lie
in one range of that table; the others are followed step by step. -/
theorem lowerRuns_within : lowerRuns.all fun run =>
    within alphanumericRanges run.1 run.2.1 ||
    (List.range (run.2.1 + 1 - run.1)).all fun i =>
      i % run.2.2.1 != 0 || within alphanumericRanges (run.1 + i) (run.1 + i) := by
  decide +kernel

/-- The partners stand there too, or are small letters of ASCII. -/
theorem lowerRuns_partner_within : lowerRuns.all fun run =>
    within [(97, 122)] run.2.2.2 (run.2.2.2 + (run.2.1 - run.1)) ||
    within alphanumericRanges run.2.2.2 (run.2.2.2 + (run.2.1 - run.1)) := by
  decide +kernel

/-- No partner has a partner itself: it lies outside every run, or between the members of a run of
every other letter. Nor is it the dotted capital I. -/
theorem lowerRuns_partner_apart : lowerRuns.all fun run =>
    (Nat.blt 0x130 run.2.2.2 || Nat.blt (run.2.2.2 + (run.2.1 - run.1)) 0x130) &&
    lowerRuns.all fun other =>
      Nat.blt other.2.1 run.2.2.2 || Nat.blt (run.2.2.2 + (run.2.1 - run.1)) other.1 ||
      ((run.1 == run.2.1 || run.2.2.1 == 2) && other.2.2.1 == 2 &&
        (run.2.2.2 + other.1) % 2 == 1) := by
  decide +kernel

/-! ## Words -/

theorem isWord_of_within {c : Char} (h : within alphanumericRanges c.toNat c.toNat) :
    isWord c := by
  obtain ⟨r, hr, hlo, hhi⟩ := within_iff.mp h
  have hvalid := alphanumericRanges_valid r hr
  have hin : inRanges alphanumericRanges c = true := by
    rw [inRanges, List.any_eq_true]
    exact ⟨r, hr, by simp [hlo, hhi]⟩
  have hascii : isAscii c = false := by
    rw [isAscii, decide_eq_false_iff_not]
    omega
  simp [isWord, hin, hascii]

/-- A code point in the table is that of a character above ASCII. -/
theorem toNat_ofNat_of_within {n : Nat} (h : within alphanumericRanges n n) :
    (Char.ofNat n).toNat = n ∧ 128 ≤ n := by
  obtain ⟨r, hr, hlo, hhi⟩ := within_iff.mp h
  have hvalid := alphanumericRanges_valid r hr
  have hn : n.isValidChar := by
    rcases hvalid.2 with h | h
    · exact Or.inl (by omega)
    · exact Or.inr (by omega)
  refine ⟨?_, by omega⟩
  rw [Char.ofNat, dif_pos hn]
  rfl

theorem isWord_ofNat_of_within {n : Nat} (h : within alphanumericRanges n n) :
    isWord (Char.ofNat n) := by
  refine isWord_of_within ?_
  rw [(toNat_ofNat_of_within h).1]
  exact h

theorem blankRanges_disjoint_alphanumeric : disjointRanges blankRanges alphanumericRanges := by
  decide +kernel

/-- Above ASCII the table decides alone. -/
theorem isWord_of_not_isAscii {c : Char} (h : isAscii c = false) :
    isWord c = inRanges alphanumericRanges c := by
  have hlow : 128 ≤ c.toNat := by simpa [isAscii] using h
  have halphanum : c.isAlphanum = false := by
    rw [Bool.eq_false_iff, isAlphanum_eq]
    simp only [ne_eq, Bool.or_eq_true, isUpper_iff, isLower_iff, isDigit_iff]
    omega
  have hunderscore : c ≠ '_' := by
    rintro rfl
    exact absurd hlow (by decide)
  simp [isWord, halphanum, h, hunderscore]

/-- No blank belongs to a word. -/
theorem isWord_eq_false_of_isBlank {c : Char} (h : isBlank c) : isWord c = false := by
  cases hascii : isAscii c with
  | true =>
    exact forall_of_isAscii (P := fun c => isBlank c → isWord c = false) (by decide) hascii h
  | false =>
    rw [isWord_of_not_isAscii hascii]
    exact inRanges_eq_false_of_disjoint blankRanges_disjoint_alphanumeric h

theorem isBlank_eq_false_of_isWord {c : Char} (h : isWord c) : isBlank c = false := by
  cases hb : isBlank c with
  | false => rfl
  | true =>
    rw [isWord_eq_false_of_isBlank hb] at h
    exact absurd h Bool.false_ne_true

/-- An ASCII digit belongs to a word. -/
theorem isWord_of_isDigit {c : Char} (h : c.isDigit) : isWord c :=
  isWord_of_isAlphanum (by simp [Char.isAlphanum, h])

theorem isDigit_eq_false_of_not_isWord {c : Char} (h : isWord c = false) : c.isDigit = false := by
  cases hdigit : c.isDigit with
  | false => rfl
  | true =>
    rw [isWord_of_isDigit hdigit] at h
    cases h

theorem not_digit_not_upper_of_isLower {c : Char} (h : c.isLower = true) :
    c.isDigit = false ∧ c.isUpper = false := by
  rw [isLower_iff] at h
  rw [Bool.eq_false_iff, Bool.eq_false_iff, ne_eq, ne_eq, isDigit_iff, isUpper_iff]
  omega

/-- A character that is a small letter, if it belongs to a word at all, is neither a digit nor a
capital letter. -/
theorem not_digit_not_upper {c : Char} (h : isWord c = true → c.isLower = true) :
    c.isDigit = false ∧ c.isUpper = false := by
  by_cases hword : c.isAlphanum = true
  · exact not_digit_not_upper_of_isLower (h (isWord_of_isAlphanum hword))
  · simp only [isAlphanum_eq, Bool.or_eq_true, not_or, Bool.not_eq_true] at hword
    exact ⟨hword.2, hword.1.1⟩

/-! ## Lower case of one character -/

/-- The lower case of a letter of ASCII is a letter of ASCII. -/
theorem isWord_toLower {c : Char} (h : isAscii c) : isWord c → isWord c.toLower :=
  forall_of_isAscii (P := fun c => isWord c → isWord c.toLower) (by decide) h

theorem toLower_of_not_isWord {c : Char} (h : isAscii c) : isWord c = false → c.toLower = c :=
  forall_of_isAscii (P := fun c => isWord c = false → c.toLower = c) (by decide) h

theorem lowerPartner_eq_or (c : Char) : lowerPartner c = c ∨
    ∃ run ∈ lowerRuns, run.1 ≤ c.toNat ∧ c.toNat ≤ run.2.1 ∧ (c.toNat - run.1) % run.2.2.1 = 0 ∧
      lowerPartner c = Char.ofNat (run.2.2.2 + (c.toNat - run.1)) := by
  unfold lowerPartner
  split
  · rename_i first last step partner hfind
    have hmem := List.mem_of_find?_eq_some hfind
    have hp := List.find?_some hfind
    simp only [Bool.and_eq_true, decide_eq_true_eq, beq_iff_eq] at hp
    exact Or.inr ⟨_, hmem, hp.1.1, hp.1.2, hp.2, rfl⟩
  · exact Or.inl rfl

/-- The partner of a character of a word belongs to a word. -/
theorem isWord_lowerPartner {c : Char} (h : isWord c) : isWord (lowerPartner c) := by
  rcases lowerPartner_eq_or c with heq | ⟨run, hrun, hlo, hhi, _, heq⟩
  · rw [heq]
    exact h
  · rw [heq]
    rcases (Bool.or_eq_true _ _).mp (List.all_eq_true.mp lowerRuns_partner_within run hrun)
      with hascii | hrange
    · have hall : ∀ n < 123, 97 ≤ n → isWord (Char.ofNat n) := by decide
      simp only [within_iff, List.mem_singleton, exists_eq_left] at hascii
      exact hall _ (by omega) (by omega)
    · obtain ⟨r, hr, hr1, hr2⟩ := within_iff.mp hrange
      exact isWord_ofNat_of_within (within_iff.mpr ⟨r, hr, by omega, by omega⟩)

/-- Outside words there is no partner. -/
theorem lowerPartner_of_not_isWord {c : Char} (h : isWord c = false) : lowerPartner c = c := by
  rcases lowerPartner_eq_or c with heq | ⟨run, hrun, hlo, hhi, hstep, _⟩
  · exact heq
  · have hin : within alphanumericRanges c.toNat c.toNat := by
      rcases (Bool.or_eq_true _ _).mp (List.all_eq_true.mp lowerRuns_within run hrun)
        with hrange | hmember
      · obtain ⟨r, hr, hr1, hr2⟩ := within_iff.mp hrange
        exact within_iff.mpr ⟨r, hr, by omega, by omega⟩
      · have hmem : c.toNat - run.1 ∈ List.range (run.2.1 + 1 - run.1) :=
          List.mem_range.mpr (by omega)
        have hc := List.all_eq_true.mp hmember _ hmem
        rw [show run.1 + (c.toNat - run.1) = c.toNat by omega] at hc
        simpa [hstep] using hc
    rw [isWord_of_within hin] at h
    exact absurd h.symm Bool.false_ne_true

/-- What belongs to no word has no case. -/
theorem lowerChar_of_not_isWord {c : Char} (h : isWord c = false) : lowerChar c = [c] := by
  unfold lowerChar
  split
  · rename_i hascii
    rw [toLower_of_not_isWord hascii h]
  · rw [if_neg, lowerPartner_of_not_isWord h]
    rintro rfl
    exact absurd h (by decide)

/-- Lower case keeps to words, but for the dot that the dotted capital I leaves behind. -/
theorem isWord_of_mem_lowerChar {c d : Char} (h : isWord c) (hd : d ∈ lowerChar c) :
    isWord d ∨ d = '\u0307' := by
  unfold lowerChar at hd
  split at hd
  · rename_i hascii
    rw [List.mem_singleton] at hd
    subst hd
    exact Or.inl (isWord_toLower hascii h)
  · split at hd
    · rcases List.mem_cons.mp hd with rfl | hd
      · exact Or.inl (by decide)
      · exact Or.inr (List.mem_singleton.mp hd)
    · rw [List.mem_singleton] at hd
      subst hd
      exact Or.inl (isWord_lowerPartner h)

/-- A partner above ASCII is its own lower case. -/
theorem lowerChar_partner {run : Nat × Nat × Nat × Nat} (hrun : run ∈ lowerRuns) {i : Nat}
    (hi : i ≤ run.2.1 - run.1) (hstep : i % run.2.2.1 = 0)
    (hwithin : within alphanumericRanges (run.2.2.2 + i) (run.2.2.2 + i)) :
    lowerChar (Char.ofNat (run.2.2.2 + i)) = [Char.ofNat (run.2.2.2 + i)] := by
  obtain ⟨hto, hlow⟩ := toNat_ofNat_of_within hwithin
  obtain ⟨hdotted, hapart⟩ := (Bool.and_eq_true _ _).mp
    (List.all_eq_true.mp lowerRuns_partner_apart run hrun)
  have hascii : ¬ isAscii (Char.ofNat (run.2.2.2 + i)) = true := by
    rw [isAscii, decide_eq_true_eq, hto]
    omega
  have hne : Char.ofNat (run.2.2.2 + i) ≠ 'İ' := by
    intro heq
    have hpoint := congrArg Char.toNat heq
    rw [hto, show 'İ'.toNat = 0x130 from rfl] at hpoint
    simp only [Bool.or_eq_true, Nat.blt_eq] at hdotted
    omega
  rw [lowerChar, if_neg hascii, if_neg hne]
  rcases lowerPartner_eq_or (Char.ofNat (run.2.2.2 + i)) with
    heq | ⟨other, hother, hlo, hhi, hmod, -⟩
  · rw [heq]
  · rw [hto] at hlo hhi hmod
    have hbetween := List.all_eq_true.mp hapart other hother
    simp only [Bool.or_eq_true, Bool.and_eq_true, Nat.blt_eq, beq_iff_eq] at hbetween
    rcases hbetween with (habove | hbelow) | ⟨⟨heven, htwo⟩, hodd⟩
    · omega
    · omega
    · rw [htwo] at hmod
      rcases heven with hsingle | heven
      · omega
      · rw [heven] at hstep
        omega

/-- What lower case has made of a character it leaves alone. -/
theorem lowerChar_of_mem_lowerChar {c d : Char} (h : d ∈ lowerChar c) : lowerChar d = [d] := by
  by_cases hascii : isAscii c = true
  · rw [lowerChar, if_pos hascii, List.mem_singleton] at h
    subst h
    exact forall_of_isAscii (P := fun e => lowerChar e.toLower = [e.toLower]) (by decide) hascii
  · by_cases hdotted : c = 'İ'
    · rw [lowerChar, if_neg hascii, if_pos hdotted] at h
      rcases List.mem_cons.mp h with rfl | hdot
      · decide
      · rw [List.mem_singleton.mp hdot]
        exact lowerChar_of_not_isWord (by decide +kernel)
    · rw [lowerChar, if_neg hascii, if_neg hdotted, List.mem_singleton] at h
      subst h
      rcases lowerPartner_eq_or c with heq | ⟨run, hrun, hlo, hhi, hstep, heq⟩
      · rw [heq, lowerChar, if_neg hascii, if_neg hdotted, heq]
      · rw [heq]
        rcases (Bool.or_eq_true _ _).mp (List.all_eq_true.mp lowerRuns_partner_within run hrun)
          with hletter | hrange
        · have hall : ∀ n < 123, 97 ≤ n → lowerChar (Char.ofNat n) = [Char.ofNat n] := by decide
          simp only [within_iff, List.mem_singleton, exists_eq_left] at hletter
          exact hall _ (by omega) (by omega)
        · obtain ⟨r, hr, hr1, hr2⟩ := within_iff.mp hrange
          exact lowerChar_partner hrun (by omega) hstep
            (within_iff.mpr ⟨r, hr, by omega, by omega⟩)

theorem lowerChar_ne_nil (c : Char) : lowerChar c ≠ [] := by
  unfold lowerChar
  split
  · exact List.cons_ne_nil _ _
  · split <;> exact List.cons_ne_nil _ _

end SourceSimilarity.Text
