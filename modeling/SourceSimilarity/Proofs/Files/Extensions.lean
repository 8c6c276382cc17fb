import SourceSimilarity.Files.SourceFilter
import SourceSimilarity.Proofs.Text.Lower

/-!
# Extensions in any case

The listed extensions are put in lower case in the full sense, but only the letters of ASCII may
differ in case from that of a path. So the case of an extension does not matter in ASCII, and above
ASCII it has to be lower case, however the extension is listed.
-/

namespace SourceSimilarity

namespace Text

/-! ## Lower case in ASCII and above -/

/-- Lower case has nothing to change in the text but letters of ASCII. -/
def LowerAboveAscii (text : Text) : Prop :=
  ∀ c ∈ text, isAscii c = false → CaseFixed c

instance (text : Text) : Decidable (LowerAboveAscii text) :=
  List.decidableBAll (fun c => isAscii c = false → CaseFixed c) text

/-- If only letters of ASCII change, they change one by one. -/
theorem lowerFrom_of_lowerAboveAscii {text : Text} (h : LowerAboveAscii text) (before : Text) :
    lowerFrom before text = text.map Char.toLower := by
  induction text generalizing before with
  | nil => rfl
  | cons c rest ih =>
    have hrest : LowerAboveAscii rest := fun d hd => h d (List.mem_cons_of_mem _ hd)
    have hc : c ≠ 'Σ' ∧ lowerChar c = [c.toLower] := by
      cases hascii : isAscii c with
      | true =>
        refine ⟨?_, by rw [lowerChar, if_pos hascii]⟩
        rintro rfl
        exact absurd hascii (by decide)
      | false =>
        obtain ⟨hsigma, hchar⟩ := h c List.mem_cons_self hascii
        exact ⟨hsigma, by rw [hchar, toLower_of_not_isAscii hascii]⟩
    rw [lowerFrom, if_neg hc.1, hc.2, ih hrest]
    rfl

/-- The small letters of a text are the lower case of some text just if nothing above ASCII is left to
change in it. -/
theorem lower_eq_map_toLower_iff {s t : Text} :
    lower s = t.map Char.toLower ↔ lower s = lower t ∧ LowerAboveAscii t := by
  constructor
  · intro h
    have hfixed : LowerAboveAscii t := by
      intro c hc hascii
      have hmem : c.toLower ∈ lower s := h ▸ List.mem_map_of_mem hc
      rw [toLower_of_not_isAscii hascii] at hmem
      exact caseFixed_of_mem_lowerFrom hmem
    exact ⟨h.trans (lowerFrom_of_lowerAboveAscii hfixed []).symm, hfixed⟩
  · rintro ⟨h, hfixed⟩
    rw [h]
    exact lowerFrom_of_lowerAboveAscii hfixed []

end Text

namespace Files

open Text

namespace SourceFilter

theorem sameLetters_lowerString_iff {listed extension : String} :
    sameLetters (lowerString listed) extension = true ↔
      lowerString listed = lowerString extension ∧ LowerAboveAscii extension.toList := by
  rw [sameLetters, beq_iff_eq, lowerString, lowerString, String.toList_ofList, map_toLower_lower,
    lower_eq_map_toLower_iff, String.ofList_inj]

/-- Without exclude patterns, a file counts just if its extension is listed in some case, and is in
lower case above ASCII. -/
theorem accepts_iff_listed (extensions : List String) : ∃ filter : SourceFilter,
    make extensions [] = .ok filter ∧
      ∀ (path root : Path) (extension : String), Path.extension? path = some extension →
        (filter.accepts path root = true ↔
          (∃ listed ∈ extensions, lowerString listed = lowerString extension) ∧
            LowerAboveAscii extension.toList) ∧
        (extension ∈ extensions →
          (filter.accepts path root = true ↔ LowerAboveAscii extension.toList)) := by
  refine ⟨⟨extensions.map lowerString, []⟩, rfl, fun path root extension hextension => ?_⟩
  have haccepts : accepts ⟨extensions.map lowerString, []⟩ path root = true ↔
      (∃ listed ∈ extensions, lowerString listed = lowerString extension) ∧
        LowerAboveAscii extension.toList := by
    rw [accepts, hextension]
    simp only [List.any_map, List.any_nil, Bool.not_false, Bool.and_true, List.any_eq_true,
      Function.comp_apply, sameLetters_lowerString_iff]
    constructor
    · rintro ⟨listed, hlisted, heq, habove⟩
      exact ⟨⟨listed, hlisted, heq⟩, habove⟩
    · rintro ⟨⟨listed, hlisted, heq⟩, habove⟩
      exact ⟨listed, hlisted, heq, habove⟩
  refine ⟨haccepts, fun hlisted => ?_⟩
  rw [haccepts]
  exact ⟨And.right, fun habove => ⟨⟨extension, hlisted, rfl⟩, habove⟩⟩

/-- An extension in ASCII counts in any case; one above ASCII does not count in capital letters, not
even if it is listed like that. -/
theorem accepts_iff_listed_capitals : ∃ filter : SourceFilter,
    make ["É", "Rs"] [] = .ok filter ∧
      Path.extension? "src/a.rS" = some "rS" ∧ filter.accepts "src/a.rS" "src" = true ∧
      Path.extension? "a.é" = some "é" ∧ filter.accepts "a.é" "" = true ∧
      Path.extension? "a.É" = some "É" ∧ filter.accepts "a.É" "" = false := by
  obtain ⟨filter, hmake, haccepts⟩ := accepts_iff_listed ["É", "Rs"]
  have hascii : Path.extension? "src/a.rS" = some "rS" := by cbv
  have hsmall : Path.extension? "a.é" = some "é" := by cbv
  have hcapital : Path.extension? "a.É" = some "É" := by cbv
  refine ⟨filter, hmake, hascii, ?_, hsmall, ?_, hcapital, ?_⟩
  · exact (haccepts _ "src" _ hascii).1.mpr ⟨⟨"Rs", by simp, by decide⟩, by decide⟩
  · exact (haccepts _ "" _ hsmall).1.mpr ⟨⟨"É", by simp, by decide⟩, by decide⟩
  · rw [Bool.eq_false_iff]
    intro hcounts
    have habove := ((haccepts _ "" _ hcapital).2 (by simp)).mp hcounts
    exact absurd habove (by decide)

/-- Not every extension counts that is listed, in any case or in its own. -/
theorem not_forall_accepts_iff_listed :
    ¬ ∀ (extensions : List String) (filter : SourceFilter), make extensions [] = .ok filter →
      ∀ (path root : Path) (extension : String), Path.extension? path = some extension →
        (filter.accepts path root = true ↔
          ∃ listed ∈ extensions, lowerString listed = lowerString extension) := by
  intro h
  have hextension : Path.extension? "a.É" = some "É" := by cbv
  have hcounts : accepts ⟨["É"].map lowerString, []⟩ "a.É" "" = true :=
    (h ["É"] _ rfl "a.É" "" "É" hextension).mpr ⟨"É", by simp, rfl⟩
  have hnot : sameLetters (lowerString "É") "É" = false := by decide
  rw [accepts, hextension] at hcounts
  simp [hnot] at hcounts

end SourceFilter

end Files

end SourceSimilarity
