import Mathlib
import SourceSimilarity.Proofs.Canonical.Form

/-!
# Letter case does not show

The letters of ASCII may be capital or small anywhere in a source text. They are no marks and no
blanks, and a letter belongs to words in either case, so every pass over a text in small letters
gives what it gives over the text itself, in small letters. What is left of the difference goes when
code is put in lower case.
-/

namespace SourceSimilarity

namespace Text

/-! ## Characters in small letters -/

/-- What is computed alike from the capital and the small letters of ASCII is computed alike from
every character and its small letter. -/
theorem apply_toLower {α : Type} {f : Char → α}
    (h : ∀ n < 128, f (Char.ofNat n).toLower = f (Char.ofNat n)) (c : Char) :
    f c.toLower = f c := by
  by_cases hc : isAscii c = true
  · exact forall_of_isAscii (P := fun c => f c.toLower = f c) h hc
  · rw [toLower_of_not_isAscii (by simpa using hc)]

theorem toLower_eq_self {c : Char} (h : c.isAlpha = false) : c.toLower = c := by
  refine Char.toLower_eq_of_not_isUpper fun hupper => ?_
  rw [Char.isAlpha, hupper, Bool.true_or] at h
  cases h

/-- A mark is no letter, so nothing else becomes one. -/
theorem toLower_eq_iff {c mark : Char} (h : mark.isAlpha = false) : c.toLower = mark ↔ c = mark := by
  constructor
  · rintro rfl
    rw [Char.isAlpha_toLower_eq_isAlpha] at h
    exact (toLower_eq_self h).symm
  · rintro rfl
    exact toLower_eq_self h

theorem isWord_comp_toLower : isWord ∘ Char.toLower = isWord :=
  funext (apply_toLower (by decide))

theorem isDigit_comp_toLower : Char.isDigit ∘ Char.toLower = Char.isDigit :=
  funext (apply_toLower (by decide))

/-- The letters of ASCII as a table. -/
def letterRanges : List (Nat × Nat) :=
  [(65, 90), (97, 122)]

theorem inRanges_letterRanges_iff {c : Char} : inRanges letterRanges c ↔ c.isAlpha := by
  simp [inRanges_iff, letterRanges, Char.isAlpha, isUpper_iff, isLower_iff]

theorem isCaseIgnorable_of_isAlpha {c : Char} (h : c.isAlpha = true) : isCaseIgnorable c = false :=
  inRanges_eq_false_of_disjoint (by decide +kernel) (inRanges_letterRanges_iff.mpr h)

theorem isCased_of_isAlpha {c : Char} (h : c.isAlpha = true) : isCased c = true := by
  have hcapital : within casedRanges 65 90 = true := by decide
  have hsmall : within casedRanges 97 122 = true := by decide
  rw [Char.isAlpha, Bool.or_eq_true, isUpper_iff, isLower_iff] at h
  obtain ⟨r, hr, hr1, hr2⟩ := within_iff.mp hcapital
  obtain ⟨q, hq, hq1, hq2⟩ := within_iff.mp hsmall
  rcases h with h | h
  · exact inRanges_iff.mpr ⟨r, hr, by omega, by omega⟩
  · exact inRanges_iff.mpr ⟨q, hq, by omega, by omega⟩

/-- A letter is a letter in either case. -/
theorem apply_toLower_of_isAlpha {α : Type} {f : Char → α} {a : α}
    (h : ∀ {c : Char}, c.isAlpha = true → f c = a) (c : Char) : f c.toLower = f c := by
  cases hc : c.isAlpha with
  | false => rw [toLower_eq_self hc]
  | true => rw [h hc, h (by rwa [Char.isAlpha_toLower_eq_isAlpha])]

theorem isCaseIgnorable_comp_toLower : isCaseIgnorable ∘ Char.toLower = isCaseIgnorable :=
  funext (apply_toLower_of_isAlpha isCaseIgnorable_of_isAlpha)

/-! ## Lower case of a text in small letters -/

theorem casedAhead_map_toLower (text : Text) :
    casedAhead (text.map Char.toLower) = casedAhead text := by
  unfold casedAhead
  rw [List.dropWhile_map, isCaseIgnorable_comp_toLower]
  cases text.dropWhile isCaseIgnorable with
  | nil => rfl
  | cons c rest => exact apply_toLower_of_isAlpha isCased_of_isAlpha c

theorem lowerFrom_map_toLower (before text : Text) :
    lowerFrom (before.map Char.toLower) (text.map Char.toLower) = lowerFrom before text := by
  induction text generalizing before with
  | nil => rfl
  | cons c rest ih =>
    have hsigma : c.toLower = 'Σ' ↔ c = 'Σ' := toLower_eq_iff (by decide)
    have hchar : lowerChar c.toLower = lowerChar c := apply_toLower (by decide) c
    have hrest := ih (c :: before)
    rw [List.map_cons] at hrest
    rw [List.map_cons, lowerFrom, lowerFrom, hrest, casedAhead_map_toLower, casedAhead_map_toLower,
      hchar]
    simp only [hsigma]

theorem lower_map_toLower (text : Text) : lower (text.map Char.toLower) = lower text :=
  lowerFrom_map_toLower [] text

end Text

namespace Canonical

open Text

/-! ## Fragments in small letters -/

namespace Fragment

/-- The fragment with its code in small letters of ASCII. -/
def toLower (f : Fragment) : Fragment :=
  f.mapCode (List.map Char.toLower)

theorem map_toLower_consCode (c : Char) (fragments : List Fragment) :
    (consCode c fragments).map toLower = consCode c.toLower (fragments.map toLower) := by
  cases fragments with
  | nil => rfl
  | cons f rest => cases f <;> rfl

end Fragment

theorem isQuote_toLower (c : Char) : isQuote c.toLower = isQuote c :=
  apply_toLower (by decide) c

theorem isAlpha_of_isQuote {c : Char} (h : isQuote c = true) : c.isAlpha = false := by
  rw [isQuote, Bool.or_eq_true, beq_iff_eq, beq_iff_eq] at h
  rcases h with rfl | rfl <;> decide

/-- The reader sees the same comments and literals in small letters. -/
theorem Mode.read_map_toLower {mode : Mode} (hmode : ∀ quote, mode = quoted quote → isQuote quote)
    (text : Text) :
    mode.read (text.map Char.toLower) = (mode.read text).map Fragment.toLower := by
  have hne : ∀ {c mark : Char}, mark.isAlpha = false → c ≠ mark → c.toLower ≠ mark :=
    fun hmark hc heq => hc ((toLower_eq_iff hmark).mp heq)
  fun_induction Mode.read mode text with
  | case1 mode => rw [List.map_nil, read_nil, List.map_nil]
  | case2 rest ih => exact ih (by simp)
  | case3 rest ih =>
    rw [Fragment.map_toLower_consCode, ← ih (by simp)]
    rfl
  | case4 c rest h1 h2 hq ih =>
    rw [List.map_cons, toLower_eq_self (isAlpha_of_isQuote hq), read_code_quote hq]
    exact ih (by simpa using hq)
  | case5 c rest h1 h2 hq ih =>
    rw [Fragment.map_toLower_consCode, ← ih (by simp), List.map_cons]
    refine read_code_cons (by simpa [isQuote_toLower] using hq) fun hslash => ?_
    have hmark := head_ne_of_unmarked h1 h2 ((toLower_eq_iff (by decide)).mp hslash)
    cases rest with
    | nil => simp
    | cons d rest =>
      simp only [List.head?_cons, List.map_cons, ne_eq, Option.some.injEq] at hmark ⊢
      exact ⟨hne (by decide) hmark.1, hne (by decide) hmark.2⟩
  | case6 rest ih =>
    rw [Fragment.map_toLower_consCode, ← ih (by simp)]
    rfl
  | case7 c rest h ih =>
    rw [List.map_cons, read, ih (by simp)]
    exact hne (by decide) h
  | case8 rest ih => exact ih (by simp)
  | case9 c rest h ih =>
    rw [List.map_cons, read, ih (by simp)]
    intro tail hstar hrest
    cases rest with
    | nil => cases hrest
    | cons d rest =>
      obtain ⟨hslash, -⟩ := List.cons.inj hrest
      rw [toLower_eq_iff (by decide)] at hstar hslash
      exact h rest hstar (by rw [hslash])
  | case10 quote c rest ih => exact ih (by simpa using hmode)
  | case11 quote rest h ih =>
    have hq := hmode quote rfl
    have hslash : quote ≠ '\\' := by
      rintro rfl
      exact absurd hq (by decide)
    rw [List.map_cons, toLower_eq_self (isAlpha_of_isQuote hq), read_quoted_cons hslash, if_pos rfl,
      ih (by simp)]
    rfl
  | case12 quote c rest h hc ih =>
    rw [List.map_cons, read, if_neg (hne (isAlpha_of_isQuote (hmode quote rfl)) hc), ih hmode]
    intro d tail hslash hrest
    cases rest with
    | nil => cases hrest
    | cons e rest => exact h e rest ((toLower_eq_iff (by decide)).mp hslash) rfl

/-! ## Numbers -/

theorem afterFraction_map_toLower (text : Text) :
    afterFraction (text.map Char.toLower) = (afterFraction text).map Char.toLower := by
  have hdigit (c : Char) : c.toLower.isDigit = c.isDigit :=
    congrFun isDigit_comp_toLower c
  have hpoint : '.'.toLower = '.' := toLower_eq_self (by decide)
  fun_cases afterFraction text with
  | case1 d rest h =>
    rw [List.map_cons, List.map_cons, hpoint, afterFraction, hdigit, if_pos h, List.dropWhile_map,
      isDigit_comp_toLower]
  | case2 d rest h =>
    rw [List.map_cons, List.map_cons, hpoint, afterFraction, hdigit, if_neg h]
  | case3 text h =>
    rw [afterFraction]
    intro d rest heq
    obtain ⟨c, tail, rfl, hc, htail⟩ := List.map_eq_cons_iff.mp heq
    obtain ⟨e, tail, rfl, -, -⟩ := List.map_eq_cons_iff.mp htail
    obtain rfl := (toLower_eq_iff (by decide)).mp hc
    exact h e tail rfl

theorem afterNumber_map_toLower (text : Text) :
    afterNumber (text.map Char.toLower) = (afterNumber text).map Char.toLower := by
  rw [afterNumber, List.dropWhile_map, isDigit_comp_toLower, afterFraction_map_toLower,
    List.dropWhile_map, isWord_comp_toLower, afterNumber]

/-- Code is split at the same numbers in small letters. -/
theorem Piece.map_toFragment_ofCodeFrom_toLower (inWord : Bool) (text : Text) :
    (ofCodeFrom inWord (text.map Char.toLower)).map toFragment =
      ((ofCodeFrom inWord text).map toFragment).map Fragment.toLower := by
  have hdigit (c : Char) : c.toLower.isDigit = c.isDigit := congrFun isDigit_comp_toLower c
  have hword (c : Char) : isWord c.toLower = isWord c := congrFun isWord_comp_toLower c
  fun_induction ofCodeFrom inWord text with
  | case1 inWord =>
    rw [List.map_nil, ofCodeFrom]
    rfl
  | case2 inWord c rest h ih =>
    have hafter : afterNumber (c.toLower :: rest.map Char.toLower) =
        (afterNumber (c :: rest)).map Char.toLower := afterNumber_map_toLower (c :: rest)
    rw [List.map_cons, ofCodeFrom, dif_pos (by rwa [hdigit]), List.map_cons, hafter, ih]
    rfl
  | case3 inWord c rest h ih =>
    rw [List.map_cons, ofCodeFrom, dif_neg (by rwa [hdigit]), map_toFragment_consCode, hword, ih,
      map_toFragment_consCode, Fragment.map_toLower_consCode]

namespace Fragment

theorem cutNumbers_toLower (f : Fragment) : f.toLower.cutNumbers = f.cutNumbers.map toLower := by
  cases f with
  | code text => exact Piece.map_toFragment_ofCodeFrom_toLower false text
  | literal kind => rfl

end Fragment

theorem fragments_map_toLower (source : Text) :
    fragments (source.map Char.toLower) = (fragments source).map Fragment.toLower := by
  rw [fragments_eq, Mode.read_map_toLower (by simp), fragments_eq, List.flatMap_map,
    List.map_flatMap]
  exact List.flatMap_congr fun f _ => f.cutNumbers_toLower

/-! ## Code -/

theorem collapseFrom_map_toLower (pending : Option Char) (text : Text) :
    collapseFrom (pending.map Char.toLower) (text.map Char.toLower) =
      (collapseFrom pending text).map Char.toLower := by
  have hnewline {c : Char} : c.toLower = '\n' ↔ c = '\n' := toLower_eq_iff (by decide)
  have hblank (c : Char) : isBlank c.toLower = isBlank c := apply_toLower (by decide) c
  fun_induction collapseFrom pending text with
  | case1 pending => cases pending <;> rfl
  | case2 pending rest ih => exact ih
  | case3 pending c rest hc hb ih =>
    rw [List.map_cons, collapseFrom, if_neg (mt hnewline.mp hc), if_pos (by rwa [hblank]), ← ih]
    cases pending <;> rfl
  | case4 pending c rest hc hb ih =>
    rw [List.map_cons, collapseFrom, if_neg (mt hnewline.mp hc), if_neg (by rwa [hblank]),
      List.map_append, List.map_cons, ← ih]
    cases pending <;> rfl

theorem Fragment.spacedTokens_toLower (reserved : ReservedWords) (f : Fragment) :
    f.toLower.spacedTokens reserved = f.spacedTokens reserved := by
  cases f with
  | code text =>
    have hcollapse : collapseBlanks (text.map Char.toLower) =
        (collapseBlanks text).map Char.toLower := collapseFrom_map_toLower none text
    have hlower : lower (collapseBlanks (text.map Char.toLower)) = lower (collapseBlanks text) := by
      rw [hcollapse, lower_map_toLower]
    exact congrArg (Token.ofCode reserved) hlower
  | literal kind => rfl

theorem normalizeWith_map_toLower (reserved : ReservedWords) (source : Text) :
    normalizeWith reserved (source.map Char.toLower) = normalizeWith reserved source := by
  refine normalizeWith_congr ?_
  rw [fragments_map_toLower, List.flatMap_map]
  exact List.flatMap_congr fun f _ => f.spacedTokens_toLower reserved

/-! ## Texts in another case -/

/-- The text `other` is `source` with any of its letters of ASCII in another case. -/
def Recased (source other : Text) : Prop :=
  List.Forall₂ (fun c d => d = c ∨ d = c.toLower ∨ d = c.toUpper) source other

instance (source other : Text) : Decidable (Recased source other) :=
  inferInstanceAs (Decidable (List.Forall₂ _ _ _))

theorem Recased.map_toLower_eq {source other : Text} (h : Recased source other) :
    other.map Char.toLower = source.map Char.toLower := by
  induction h with
  | nil => rfl
  | @cons c d _ _ hcase _ ih =>
    have hd : d.toLower = c.toLower := by
      rcases hcase with rfl | rfl | rfl
      · rfl
      · exact Char.toLower_toLower_eq_toLower c
      · exact Char.toLower_toUpper_eq_toLower c
    rw [List.map_cons, List.map_cons, hd, ih]

/-- The case of the letters of ASCII does not show in a canonical text. -/
theorem normalizeWith_recased (reserved : ReservedWords) {source other : Text}
    (h : Recased source other) :
    normalizeWith reserved other = normalizeWith reserved source := by
  rw [← normalizeWith_map_toLower reserved other, h.map_toLower_eq, normalizeWith_map_toLower]

/-- Of a keyword, a number, an escape and a comment the case may change, and a sigma next to a
letter keeps its form. -/
theorem normalizeWith_recased_mixed :
    Recased "Return 0x1Ful+AΣ '\\N' //K".toList "rETURN 0X1fUL+aΣ '\\n' //k".toList ∧
      normalizeWith .builtin "rETURN 0X1fUL+aΣ '\\n' //k".toList =
        normalizeWith .builtin "Return 0x1Ful+AΣ '\\N' //K".toList :=
  have h : Recased "Return 0x1Ful+AΣ '\\N' //K".toList "rETURN 0X1fUL+aΣ '\\n' //k".toList := by
    decide
  ⟨h, normalizeWith_recased .builtin h⟩

end Canonical

end SourceSimilarity
