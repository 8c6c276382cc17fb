import Mathlib.Data.List.Chain
import SourceSimilarity.Canonical.ReservedWords
import SourceSimilarity.Proofs.Text.Lower

/-!
# Looking words up

In a sorted table the search by halves finds every entry, since the half that it leaves out holds
none that is spelled like the word. Whatever the table, it finds nothing but the word itself.
-/

namespace SourceSimilarity.Canonical

open Text

/-- A table as the lookup and the canonical form expect it: sorted, and each entry a word in lower
case that does not read as a number. -/
structure ReservedWords.WellFormed (table : ReservedWords) : Prop where
  sorted : table.words.toList.Pairwise (· ≤ ·)
  lower_eq : ∀ entry ∈ table.words, lowerString entry = entry
  isWord : ∀ entry ∈ table.words, ∀ c ∈ entry.toList, Text.isWord c = true
  head_not_digit : ∀ entry ∈ table.words, ∀ c ∈ entry.toList.head?, c.isDigit = false

namespace ReservedWords

variable {table : ReservedWords}

/-! ## The search by halves -/

/-- The entries of a sorted table ascend with their places. -/
theorem words_le (hs : table.words.toList.Pairwise (· ≤ ·)) {i j : Nat} (hij : i ≤ j)
    (hj : j < table.words.size) : table.words[i] ≤ table.words[j] := by
  by_cases h : i = j
  · subst h
    exact String.le_refl _
  · rw [List.pairwise_iff_getElem] at hs
    exact hs i j (by simpa using Nat.lt_of_le_of_lt hij hj) (by simpa using hj) (by omega)

/-- What the search finds is the word itself, and an entry of the table. -/
theorem eq_of_searchBetween {word entry : String} {low high : Nat}
    (h : table.searchBetween word low high = some entry) : entry = word ∧ entry ∈ table.words := by
  fun_induction searchBetween table word low high with
  | case1 => cases h
  | case2 low high hlt middle found hfound hbelow ih => exact ih h
  | case3 low high hlt middle found hfound hbelow habove ih => exact ih h
  | case4 low high hlt middle found hfound hbelow habove =>
    obtain rfl := Option.some.inj h
    exact ⟨String.le_antisymm habove hbelow, Array.mem_of_getElem? hfound⟩
  | case5 => cases h

/-- The search finds a word that stands between its bounds. -/
theorem searchBetween_eq_some (hs : table.words.toList.Pairwise (· ≤ ·)) {word : String}
    {low high i : Nat} (hlow : low ≤ i) (hi : i < high) (hhigh : high ≤ table.words.size)
    (hword : table.words[i] = word) : table.searchBetween word low high = some word := by
  fun_induction searchBetween table word low high with
  | case1 low high hlt middle hnone =>
    rw [Array.getElem?_eq_getElem (by omega)] at hnone
    cases hnone
  | case2 low high hlt middle found hfound hbelow ih =>
    obtain ⟨hmiddle, rfl⟩ := Array.getElem?_eq_some_iff.mp hfound
    -- no entry up to the middle one is greater than it, and the word is
    have hnot : ¬ i ≤ middle := fun hle => hword ▸ words_le hs hle hmiddle <| hbelow
    exact ih (by omega) hi hhigh hword
  | case3 low high hlt middle found hfound hbelow habove ih =>
    obtain ⟨hmiddle, rfl⟩ := Array.getElem?_eq_some_iff.mp hfound
    have hnot : ¬ middle ≤ i := fun hle => words_le hs hle (by omega) (hword ▸ habove)
    exact ih hlow (by omega) (by omega) hword
  | case4 low high hlt middle found hfound hbelow habove =>
    rw [String.le_antisymm habove hbelow]
  | case5 low high hlt => omega

theorem search_eq_some (hs : table.words.toList.Pairwise (· ≤ ·)) {word : String}
    (h : word ∈ table.words) : table.search word = some word := by
  obtain ⟨i, hi, hword⟩ := Array.getElem_of_mem h
  exact searchBetween_eq_some hs (Nat.zero_le i) hi (Nat.le_refl _) hword

/-! ## Lookup -/

/-- A word is looked up in lower case, or as it stands. -/
theorem eq_of_lookup {word entry : String} (h : table.lookup word = some entry) :
    (entry = lowerString word ∨ entry = word) ∧ entry ∈ table.words := by
  unfold lookup at h
  split at h
  · have hfound := eq_of_searchBetween h
    exact ⟨Or.inl hfound.1, hfound.2⟩
  · have hfound := eq_of_searchBetween h
    exact ⟨Or.inr hfound.1, hfound.2⟩

/-- An entry in lower case is found under its own spelling. -/
theorem lookup_entry (h : table.WellFormed) {entry : String} (he : entry ∈ table.words) :
    table.lookup entry = some entry := by
  unfold lookup
  split
  · rw [h.lower_eq entry he, search_eq_some h.sorted he]
  · exact search_eq_some h.sorted he

/-- A word in lower case that is no entry is not found. -/
theorem lookup_eq_none {word : Text} (hlower : lower word = word)
    (h : String.ofList word ∉ table.words) : table.lookup (String.ofList word) = none := by
  cases hentry : table.lookup (String.ofList word) with
  | none => rfl
  | some entry =>
    obtain ⟨hspelling, hmem⟩ := eq_of_lookup hentry
    rw [lowerString, String.toList_ofList, hlower, or_self] at hspelling
    subst hspelling
    exact absurd hmem h

/-! ## The built-in table -/

/-- The words are spelled with small letters of ASCII. -/
theorem isLower_of_mem_builtin {entry : String} (hentry : entry ∈ builtin.words) :
    ∀ c ∈ entry.toList, c.isLower = true := by
  have hall : (builtin.words.toList.all fun entry => entry.toList.all Char.isLower) = true := by
    decide
  exact List.all_eq_true.mp (List.all_eq_true.mp hall entry (Array.mem_toList_iff.mpr hentry))

/-- No word is found that holds a character which is in lower case, but no small letter of ASCII. -/
theorem lookup_builtin_eq_none {word : Text} {c : Char} (hc : c ∈ word) (hfixed : CaseFixed c)
    (hletter : c.isLower = false) : builtin.lookup (String.ofList word) = none := by
  cases hentry : builtin.lookup (String.ofList word) with
  | none => rfl
  | some entry =>
    obtain ⟨hspelling, hmem⟩ := eq_of_lookup hentry
    have hin : c ∈ entry.toList := by
      rcases hspelling with rfl | rfl
      · simpa [lowerString] using show c ∈ lower word from mem_lowerFrom_of_caseFixed hfixed hc []
      · simpa using hc
    rw [isLower_of_mem_builtin hmem c hin] at hletter
    cases hletter

/-- The built-in table is as it should be. -/
theorem builtin_wellFormed : builtin.WellFormed where
  sorted := by
    rw [← List.isChain_iff_pairwise]
    decide +kernel
  lower_eq := by
    intro entry hentry
    have hlower : lower entry.toList = entry.toList :=
      lowerFrom_of_caseFixed
        (fun c hc => caseFixed_of_isLower (isLower_of_mem_builtin hentry c hc)) []
    rw [lowerString, hlower, String.ofList_toList]
  isWord := by
    intro entry hentry c hc
    have hlower := isLower_of_mem_builtin hentry c hc
    exact isWord_of_isAlphanum (by simp [isAlphanum_eq, hlower])
  head_not_digit := by
    intro entry hentry c hc
    exact (not_digit_not_upper_of_isLower
      (isLower_of_mem_builtin hentry c (List.mem_of_head? hc))).1

end ReservedWords

end SourceSimilarity.Canonical
