import SourceSimilarity.Proofs.Text.Lower

/-!
# Title case

Lower case changes capital letters, and besides them only the letters in title case. Those are one
letter for two, of which the first alone is a capital: they count as no capitals. A text without
capital letters is in lower case just if it has none of them.
-/

namespace SourceSimilarity.Text

/-- Letters in title case, of which the first part is a capital: the digraphs of Latin, and the
Greek vowels with a small iota beside them. -/
def titleRanges : List (Nat × Nat) :=
  [(0x1C5, 0x1C5), (0x1C8, 0x1C8), (0x1CB, 0x1CB), (0x1F2, 0x1F2), (0x1F88, 0x1F8F),
   (0x1F98, 0x1F9F), (0x1FA8, 0x1FAF), (0x1FBC, 0x1FBC), (0x1FCC, 0x1FCC), (0x1FFC, 0x1FFC)]

/-- A letter in title case. -/
def isTitle (c : Char) : Bool :=
  inRanges titleRanges c

/-! ## Tables -/

/-- The code points from `first` to `last` that are `step` apart lie in one run of a table. -/
def runWithin (runs : List (Nat × Nat × Nat)) (first last step : Nat) : Bool :=
  runs.any fun run => Nat.ble run.1 first && Nat.ble last run.2.1 &&
    Nat.beq ((first - run.1) % run.2.2) 0 && Nat.beq (step % run.2.2) 0

theorem inRuns_of_runWithin {runs : List (Nat × Nat × Nat)} {first last step : Nat} {c : Char}
    (h : runWithin runs first last step) (hlo : first ≤ c.toNat) (hhi : c.toNat ≤ last)
    (hstep : (c.toNat - first) % step = 0) : inRuns runs c := by
  obtain ⟨run, hrun, hin⟩ := List.any_eq_true.mp h
  simp only [Bool.and_eq_true, Nat.ble_eq, Nat.beq_eq] at hin
  obtain ⟨⟨⟨hfirst, hlast⟩, hstart⟩, hsteps⟩ := hin
  have hplace : (c.toNat - run.1) % run.2.2 = 0 := by
    rw [show c.toNat - run.1 = (c.toNat - first) + (first - run.1) by omega]
    exact Nat.mod_eq_zero_of_dvd (Nat.dvd_add
      (Nat.dvd_trans (Nat.dvd_of_mod_eq_zero hsteps) (Nat.dvd_of_mod_eq_zero hstep))
      (Nat.dvd_of_mod_eq_zero hstart))
  have hfrom : run.1 ≤ c.toNat := by omega
  have hto : c.toNat ≤ run.2.1 := by omega
  exact List.any_eq_true.mpr ⟨run, hrun, by simp [hfrom, hto, hplace]⟩

/-- The runs of letters with a partner hold capital letters and letters in title case. Most lie in
one run of capitals; the others are followed step by step. -/
theorem lowerRuns_upper_or_title : lowerRuns.all fun run =>
    runWithin upperRuns run.1 run.2.1 run.2.2.1 ||
    (List.range (run.2.1 + 1 - run.1)).all fun i =>
      i % run.2.2.1 != 0 || runWithin upperRuns (run.1 + i) (run.1 + i) 0 ||
        within titleRanges (run.1 + i) (run.1 + i) := by
  decide +kernel

/-- No letter in title case is a capital letter, and lower case changes each of them. -/
theorem titleRanges_changed : titleRanges.all fun r =>
    (List.range (r.2 + 1 - r.1)).all fun i =>
      !isUpper (Char.ofNat (r.1 + i)) && lowerChar (Char.ofNat (r.1 + i)) != [Char.ofNat (r.1 + i)]
    := by
  decide

/-! ## One letter -/

theorem isTitle_iff_within {c : Char} : isTitle c = true ↔ within titleRanges c.toNat c.toNat := by
  rw [isTitle, inRanges_iff, within_iff]

/-- A letter in title case is no capital, and lower case changes it. -/
theorem changed_of_isTitle {c : Char} (h : isTitle c = true) :
    isUpper c = false ∧ lowerChar c ≠ [c] := by
  obtain ⟨r, hr, hlo, hhi⟩ := within_iff.mp (isTitle_iff_within.mp h)
  have hmem : c.toNat - r.1 ∈ List.range (r.2 + 1 - r.1) := List.mem_range.mpr (by omega)
  have hc := List.all_eq_true.mp (List.all_eq_true.mp titleRanges_changed r hr) _ hmem
  rw [show r.1 + (c.toNat - r.1) = c.toNat by omega, Char.ofNat_toNat] at hc
  simpa using hc

/-- A partner stands in the place of capital letters and letters in title case only. -/
theorem lowerPartner_of_plain {c : Char} (hascii : isAscii c = false) (hupper : isUpper c = false)
    (htitle : isTitle c = false) : lowerPartner c = c := by
  have hnot : inRuns upperRuns c = false := by
    rw [isUpper, hascii, Bool.or_eq_false_iff] at hupper
    simpa using hupper.2
  rcases lowerPartner_eq_or c with heq | ⟨run, hrun, hlo, hhi, hstep, -⟩
  · exact heq
  · exfalso
    rcases (Bool.or_eq_true _ _).mp (List.all_eq_true.mp lowerRuns_upper_or_title run hrun)
      with hwhole | heach
    · rw [inRuns_of_runWithin hwhole hlo hhi hstep] at hnot
      cases hnot
    · have hmem : c.toNat - run.1 ∈ List.range (run.2.1 + 1 - run.1) :=
        List.mem_range.mpr (by omega)
      have hc := List.all_eq_true.mp heach _ hmem
      rw [show run.1 + (c.toNat - run.1) = c.toNat by omega] at hc
      simp only [hstep, bne_self_eq_false, Bool.false_or, Bool.or_eq_true] at hc
      rcases hc with hupper | hin
      · rw [inRuns_of_runWithin hupper (Nat.le_refl _) (Nat.le_refl _) (by omega)] at hnot
        cases hnot
      · rw [isTitle_iff_within.mpr hin] at htitle
        cases htitle

/-- Letters that are neither capital nor in title case are in lower case. -/
theorem caseFixed_of_plain {c : Char} (hupper : isUpper c = false) (htitle : isTitle c = false) :
    CaseFixed c := by
  refine caseFixed_of_lowerChar_eq ?_
  cases hascii : isAscii c with
  | true =>
    exact forall_of_isAscii (P := fun c => isUpper c = false → lowerChar c = [c])
      (by decide) hascii hupper
  | false =>
    have hdotted : c ≠ 'İ' := by
      rintro rfl
      exact absurd hupper (by decide)
    rw [lowerChar, if_neg (by simp [hascii]), if_neg hdotted,
      lowerPartner_of_plain hascii hupper htitle]

/-! ## Texts without capital letters -/

/-- A text without capital letters is in lower case just if it has no letter in title case. -/
theorem lower_eq_self_iff {text : Text} (hupper : ∀ c ∈ text, isUpper c = false) :
    lower text = text ↔ ∀ c ∈ text, isTitle c = false := by
  constructor
  · intro hlower c hc
    cases htitle : isTitle c with
    | false => rfl
    | true => exact absurd (caseFixed_of_lower_eq hlower c hc).2 (changed_of_isTitle htitle).2
  · intro htitle
    exact lowerFrom_of_caseFixed (fun c hc => caseFixed_of_plain (hupper c hc) (htitle c hc)) []

end SourceSimilarity.Text
