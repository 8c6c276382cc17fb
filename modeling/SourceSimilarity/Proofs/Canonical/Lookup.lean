import SourceSimilarity.Proofs.Canonical.ReservedWords
import SourceSimilarity.Proofs.Text.TitleCase

/-!
# Which words are reserved

A word is looked up in lower case if it has a capital letter, and as it stands if it has none. In a
sorted table of words in lower case the lookup thus finds the lower case of every word, but for
those that have no capital letter and are still not in lower case: they have a letter in title case.
-/

namespace SourceSimilarity.Canonical

open Text

/-- The word is looked up as it stands although it is not in lower case. -/
def Overlooked (word : String) : Prop :=
  (∀ c ∈ word.toList, isUpper c = false) ∧ ∃ c ∈ word.toList, isTitle c = true

instance (word : String) : Decidable (Overlooked word) :=
  @instDecidableAnd _ _ (List.decidableBAll (isUpper · = false) word.toList)
    (List.decidableBEx (isTitle · = true) word.toList)

theorem lowerString_eq_self_iff {word : String} : lowerString word = word ↔
    lower word.toList = word.toList := by
  rw [lowerString, ← String.toList_inj, String.toList_ofList]

theorem lowerString_lowerString (word : String) :
    lowerString (lowerString word) = lowerString word := by
  rw [lowerString_eq_self_iff, lowerString, String.toList_ofList, lower_lower]

/-- Of the words without capital letters, those in lower case are not overlooked. -/
theorem lowerString_eq_self_iff_not_overlooked {word : String}
    (hupper : ∀ c ∈ word.toList, isUpper c = false) :
    lowerString word = word ↔ ¬ Overlooked word := by
  rw [lowerString_eq_self_iff, lower_eq_self_iff hupper, Overlooked]
  constructor
  · rintro htitle ⟨-, c, hc, hctitle⟩
    rw [htitle c hc] at hctitle
    cases hctitle
  · intro hnot c hc
    rw [Bool.eq_false_iff]
    exact fun htitle => hnot ⟨hupper, c, hc, htitle⟩

theorem not_overlooked_lowerString (word : String) : ¬ Overlooked (lowerString word) := by
  intro h
  exact (lowerString_eq_self_iff_not_overlooked h.1).mp (lowerString_lowerString word) h

namespace ReservedWords

variable {table : ReservedWords}

/-- A word that is not overlooked is looked up in lower case, whichever way is taken. -/
theorem lookup_eq_search {word : String} (h : ¬ Overlooked word) :
    table.lookup word = table.search (lowerString word) := by
  unfold lookup
  split
  · rfl
  · rename_i hupper
    have hupper : ∀ c ∈ word.toList, isUpper c = false := by simpa using hupper
    rw [(lowerString_eq_self_iff_not_overlooked hupper).mpr h]

/-- An overlooked word is looked up as it stands. -/
theorem lookup_eq_search_of_overlooked {word : String} (h : Overlooked word) :
    table.lookup word = table.search word := by
  rw [lookup, if_neg]
  simpa using h.1

section Sorted

variable (hsorted : table.words.toList.Pairwise (· ≤ ·))
include hsorted

/-- In a sorted table the search is a membership test. -/
theorem search_eq_some_iff {word entry : String} :
    table.search word = some entry ↔ entry ∈ table.words ∧ entry = word := by
  constructor
  · intro h
    obtain ⟨heq, hmem⟩ := eq_of_searchBetween h
    exact ⟨hmem, heq⟩
  · rintro ⟨hmem, rfl⟩
    exact search_eq_some hsorted hmem

theorem search_eq_none_iff {word : String} : table.search word = none ↔ word ∉ table.words := by
  rw [Option.eq_none_iff_forall_ne_some]
  constructor
  · intro h hmem
    exact h word (search_eq_some hsorted hmem)
  · rintro hnot entry h
    obtain ⟨hmem, rfl⟩ := (search_eq_some_iff hsorted).mp h
    exact hnot hmem

variable (hlower : ∀ entry ∈ table.words, lowerString entry = entry)
include hlower

/-- An overlooked word is not found, since no entry is spelled like it. -/
theorem lookup_eq_none_of_overlooked {word : String} (h : Overlooked word) :
    table.lookup word = none := by
  rw [lookup_eq_search_of_overlooked h, search_eq_none_iff hsorted]
  intro hmem
  exact (lowerString_eq_self_iff_not_overlooked h.1).mp (hlower word hmem) h

theorem lookup_eq_some_iff {word entry : String} : table.lookup word = some entry ↔
    entry ∈ table.words ∧ entry = lowerString word ∧ ¬ Overlooked word := by
  by_cases h : Overlooked word
  · simp [lookup_eq_none_of_overlooked hsorted hlower h, h]
  · simp [lookup_eq_search h, search_eq_some_iff hsorted, h]

/-- Only for an overlooked word does it matter whether it is put in lower case first. -/
theorem lookup_eq_search_lowerString_iff (word : String) :
    table.lookup word = table.search (lowerString word) ↔
      (lowerString word ∈ table.words → ¬ Overlooked word) := by
  by_cases h : Overlooked word
  · rw [lookup_eq_none_of_overlooked hsorted hlower h, eq_comm, search_eq_none_iff hsorted]
    simp [h]
  · simp [lookup_eq_search h, h]

end Sorted

/-- In a sorted table of words in lower case, the lookup finds the lower case of a word just if it is
an entry and the word is not overlooked. Putting a word in lower case before it is looked up, and
before it is searched for if it has no capital letter, changes nothing but for overlooked words. -/
theorem lookup_iff_mem (hsorted : table.words.toList.Pairwise (· ≤ ·))
    (hlower : ∀ entry ∈ table.words, lowerString entry = entry) (word : String) :
    (∀ entry, table.lookup word = some entry ↔
      entry ∈ table.words ∧ entry = lowerString word ∧ ¬ Overlooked word) ∧
    (table.lookup word = table.lookup (lowerString word) ↔
      (lowerString word ∈ table.words → ¬ Overlooked word)) ∧
    ((∀ c ∈ word.toList, isUpper c = false) →
      (table.search word = table.search (lowerString word) ↔
        (lowerString word ∈ table.words → ¬ Overlooked word))) := by
  have hagree := lookup_eq_search_lowerString_iff hsorted hlower word
  refine ⟨fun entry => lookup_eq_some_iff hsorted hlower, ?_, fun hupper => ?_⟩
  · rw [lookup_eq_search (not_overlooked_lowerString word), lowerString_lowerString, hagree]
  · rw [← hagree, lookup, if_neg]
    simpa using hupper

/-- Two words that start with a digraph. -/
def digraphs : ReservedWords :=
  ⟨#["ǆ", "ǆx"]⟩

theorem digraphs_ascending : digraphs.words.toList.Pairwise (· < ·) := by
  rw [← List.isChain_iff_pairwise]
  decide

theorem digraphs_sorted : digraphs.words.toList.Pairwise (· ≤ ·) :=
  digraphs_ascending.imp fun h => Std.le_of_lt h

theorem digraphs_lower : ∀ entry ∈ digraphs.words, lowerString entry = entry := by
  have hall : (digraphs.words.toList.all fun entry => lowerString entry == entry) = true := by
    decide
  intro entry hentry
  simpa using List.all_eq_true.mp hall entry (Array.mem_toList_iff.mpr hentry)

/-- The digraph in title case is overlooked on its own, and found with a capital letter behind it. -/
theorem lookup_iff_mem_digraphs :
    digraphs.words.toList.Pairwise (· ≤ ·) ∧
      (∀ entry ∈ digraphs.words, lowerString entry = entry) ∧
      digraphs.lookup "ǅX" = some "ǆx" ∧ digraphs.lookup "ǅ" ≠ digraphs.lookup "ǆ" := by
  have hfound := lookup_iff_mem digraphs_sorted digraphs_lower "ǅX"
  have hmissed := lookup_iff_mem digraphs_sorted digraphs_lower "ǅ"
  have hlower : lowerString "ǅ" = "ǆ" := by decide
  refine ⟨digraphs_sorted, digraphs_lower, (hfound.1 "ǆx").mpr ?_, fun heq => ?_⟩
  · refine ⟨by simp [digraphs], by decide, by decide⟩
  · have hnot := hmissed.2.1.mp (hlower.symm ▸ heq) (by simp [digraphs, hlower])
    exact hnot (by decide)

/-- Not every word is found whose lower case is reserved. -/
theorem not_forall_lookup_iff_mem :
    ¬ ∀ table : ReservedWords, table.words.toList.Pairwise (· < ·) →
      (∀ entry ∈ table.words, lowerString entry = entry) → ∀ word entry : String,
        (table.lookup word = some entry ↔ entry ∈ table.words ∧ entry = lowerString word) := by
  intro h
  have hfound : digraphs.lookup "ǅ" = some "ǆ" :=
    (h digraphs digraphs_ascending digraphs_lower "ǅ" "ǆ").mpr
      ⟨by simp [digraphs], by decide⟩
  rw [lookup_eq_none_of_overlooked digraphs_sorted digraphs_lower (by decide)] at hfound
  cases hfound

end ReservedWords

end SourceSimilarity.Canonical
