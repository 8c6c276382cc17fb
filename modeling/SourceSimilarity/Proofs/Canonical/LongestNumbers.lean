import SourceSimilarity.Proofs.Canonical.Values

/-!
# Code split at its numbers

A number takes as much of the text as it can: nothing longer at its place spells one. Together with
where numbers may begin this settles how a text is split, so that the pieces are the only ones that
give the text back, keep numbers and words apart and leave no number in the code.
-/

namespace SourceSimilarity.Canonical

open Text

/-! ## The longest number -/

/-- A fraction is a point with digits behind it, or nothing. -/
theorem exists_fractionAt (text : Text) : ∃ fraction : Text,
    (∀ c ∈ fraction, c.isDigit = true) ∧
      fractionAt text = if fraction.isEmpty then [] else '.' :: fraction := by
  unfold fractionAt
  split
  · rename_i d rest
    split
    · rename_i hd
      refine ⟨d :: rest.takeWhile Char.isDigit, fun c hc => ?_, rfl⟩
      rcases List.mem_cons.mp hc with rfl | hmem
      · exact hd
      · exact List.mem_takeWhile_imp hmem
    · exact ⟨[], by simp, rfl⟩
  · exact ⟨[], by simp, rfl⟩

/-- The number is the longest one at the front of the text. -/
structure IsLongestNumber (number text : Text) : Prop where
  isPrefix : number <+: text
  exists_spelling : ∃ n : NumberSpelling, n.text = number
  length_le : ∀ n : NumberSpelling, n.text <+: text → n.text.length ≤ number.length

theorem IsLongestNumber.eq {number number' text : Text} (h : IsLongestNumber number text)
    (h' : IsLongestNumber number' text) : number = number' := by
  obtain ⟨n, rfl⟩ := h.exists_spelling
  obtain ⟨n', rfl⟩ := h'.exists_spelling
  have hlength := Nat.le_antisymm (h'.length_le n h.isPrefix) (h.length_le n' h'.isPrefix)
  exact (List.prefix_of_prefix_length_le h.isPrefix h'.isPrefix hlength.le).eq_of_length hlength

/-- The number that is cut out at a digit is the longest one there. -/
theorem isLongestNumber_numberAt {c : Char} (hc : c.isDigit = true) (rest : Text) :
    IsLongestNumber (numberAt (c :: rest)) (c :: rest) where
  isPrefix := ⟨_, numberAt_append_afterNumber (c :: rest)⟩
  exists_spelling := by
    obtain ⟨fraction, hfraction, heq⟩ := exists_fractionAt ((c :: rest).dropWhile Char.isDigit)
    refine ⟨⟨(c :: rest).takeWhile Char.isDigit, fraction,
      (afterFraction ((c :: rest).dropWhile Char.isDigit)).takeWhile isWord, ?_,
      fun _ hd => List.mem_takeWhile_imp hd, hfraction, fun _ hd => List.mem_takeWhile_imp hd⟩, ?_⟩
    · rw [List.takeWhile_cons_of_pos hc]
      exact List.cons_ne_nil _ _
    · rw [NumberSpelling.text, NumberSpelling.point, numberAt, heq]
  length_le := by
    rintro n ⟨t, ht⟩
    have hafter := (n.afterNumber_suffix t).length_le
    have hwhole := congrArg List.length (numberAt_append_afterNumber (n.text ++ t))
    rw [ht] at hafter hwhole
    rw [List.length_append, ← ht, List.length_append] at hwhole
    rw [← ht] at hafter ⊢
    omega

/-! ## Splitting -/

/-- The pieces are the text, split at its numbers. Code and numbers alternate, and no number touches
a word. Every number is as long as it can be, and every digit in code goes on a word. -/
structure SplitsAtNumbers (text : Text) (pieces : List Piece) : Prop where
  source_eq : pieces.flatMap Piece.source = text
  ne_nil : ∀ s, .code s ∈ pieces → s ≠ []
  apart : (pieces.map Piece.toFragment).IsChain Fragment.Joint
  longest : ∀ number rest, .number number :: rest <:+ pieces →
    IsLongestNumber number (number ++ rest.flatMap Piece.source)
  digits : ∀ s, .code s ∈ pieces → (∀ c ∈ s.head?, c.isDigit = false) ∧
    s.IsChain fun a b => b.isDigit = true → isWord a = true

/-- What is behind the first piece is split, too. -/
theorem SplitsAtNumbers.tail {text : Text} {p : Piece} {pieces : List Piece}
    (h : SplitsAtNumbers text (p :: pieces)) :
    SplitsAtNumbers (pieces.flatMap Piece.source) pieces where
  source_eq := rfl
  ne_nil s hs := h.ne_nil s (List.mem_cons_of_mem _ hs)
  apart := h.apart.tail
  longest number rest hrest := h.longest number rest (hrest.trans (List.suffix_cons _ _))
  digits s hs := h.digits s (List.mem_cons_of_mem _ hs)

namespace Piece

/-! ### The split of a text -/

theorem suffix_of_suffix_consCode {c : Char} {number : Text} {rest pieces : List Piece}
    (h : .number number :: rest <:+ consCode c pieces) : .number number :: rest <:+ pieces := by
  unfold consCode at h
  split at h
  · rcases List.suffix_cons_iff.mp h with heq | hsuffix
    · cases heq
    · exact hsuffix.trans (List.suffix_cons _ _)
  · rcases List.suffix_cons_iff.mp h with heq | hsuffix
    · cases heq
    · exact hsuffix

theorem isLongestNumber_of_suffix {inWord : Bool} {text spelling : Text} {rest : List Piece}
    (h : number spelling :: rest <:+ ofCodeFrom inWord text) :
    IsLongestNumber spelling (spelling ++ rest.flatMap source) := by
  fun_induction ofCodeFrom inWord text with
  | case1 => exact absurd (List.suffix_nil.mp h) (List.cons_ne_nil _ _)
  | case2 inWord c tail hc ih =>
    rcases List.suffix_cons_iff.mp h with heq | hsuffix
    · cases heq
      rw [flatMap_source_ofCodeFrom, numberAt_append_afterNumber]
      exact isLongestNumber_numberAt hc.1 tail
    · exact ih hsuffix
  | case3 inWord c tail hc ih => exact ih (suffix_of_suffix_consCode h)

/-- Code that starts with a digit goes on a word in front of the text. -/
theorem inWord_of_ofCodeFrom_code {inWord : Bool} {text s : Text} {pieces : List Piece}
    (h : ofCodeFrom inWord text = code s :: pieces) :
    ∀ c ∈ s.head?, c.isDigit = true → inWord = true := by
  intro c hc hdigit
  rw [← head_of_ofCodeFrom_code h] at hc
  obtain ⟨rest, rfl⟩ := List.head?_eq_some_iff.mp hc
  rw [ofCodeFrom] at h
  split at h
  · cases h
  · rename_i hnumber
    simpa [hdigit] using hnumber

/-- Inside code, a digit goes on the word that the character in front of it belongs to. -/
theorem isChain_of_mem_ofCodeFrom {inWord : Bool} {text s : Text}
    (h : code s ∈ ofCodeFrom inWord text) :
    s.IsChain fun a b => b.isDigit = true → isWord a = true := by
  fun_induction ofCodeFrom inWord text generalizing s with
  | case1 => cases h
  | case2 inWord c rest hc ih =>
    rcases List.mem_cons.mp h with heq | hmem
    · cases heq
    · exact ih hmem
  | case3 inWord c rest hc ih =>
    unfold consCode at h
    split at h
    · rename_i t pieces hpieces
      rcases List.mem_cons.mp h with heq | hmem
      · cases heq
        exact (ih (hpieces ▸ List.mem_cons_self)).cons (inWord_of_ofCodeFrom_code hpieces)
      · exact ih (hpieces ▸ List.mem_cons_of_mem _ hmem)
    · rcases List.mem_cons.mp h with heq | hmem
      · cases heq
        exact .singleton _
      · exact ih hmem

/-- No code starts with a digit: behind a number there is none, and at the front it would be a
number. -/
theorem head_not_digit_of_mem_ofCode {text s : Text} (h : code s ∈ ofCode text) :
    ∀ c ∈ s.head?, c.isDigit = false := by
  intro c hc
  obtain ⟨front, back, heq⟩ := List.append_of_mem h
  rcases List.eq_nil_or_concat front with rfl | ⟨before, p, rfl⟩
  · cases hdigit : c.isDigit with
    | false => rfl
    | true => exact absurd (inWord_of_ofCodeFrom_code heq c hc hdigit) Bool.false_ne_true
  · have hchain := isChain_ofCodeFrom false text
    rw [← ofCode, heq] at hchain
    have hjoint : Fragment.Joint p.toFragment (.code s) := by
      simp only [List.concat_eq_append, List.append_assoc, List.map_append, List.map_cons,
        List.cons_append, List.nil_append] at hchain
      exact (List.isChain_append_cons_cons.mp hchain).2.1
    cases p with
    | code t => exact hjoint.elim
    | number spelling => exact isDigit_eq_false_of_not_isWord (hjoint c hc)

theorem splitsAtNumbers_ofCode (text : Text) : SplitsAtNumbers text (ofCode text) where
  source_eq := flatMap_source_ofCodeFrom false text
  ne_nil _ hs := ne_nil_of_mem_ofCodeFrom hs
  apart := isChain_ofCodeFrom false text
  longest _ _ h := isLongestNumber_of_suffix h
  digits _ hs := ⟨head_not_digit_of_mem_ofCode hs, isChain_of_mem_ofCodeFrom hs⟩

/-! ### There is no other -/

/-- Code in which every digit goes on a word stays together up to the number behind it. -/
theorem ofCodeFrom_append_of_plain {s t : Text} (hne : s ≠ [])
    (hchain : s.IsChain fun a b => b.isDigit = true → isWord a = true)
    (hlast : ∀ a ∈ s.getLast?, ∀ b ∈ t.head?, b.isDigit = true → isWord a = false)
    (hcode : ∀ u, code u ∉ (ofCode t).head?) {inWord : Bool}
    (hhead : ∀ c ∈ s.head?, c.isDigit = true → inWord = true) :
    ofCodeFrom inWord (s ++ t) = code s :: ofCode t := by
  induction s generalizing inWord with
  | nil => exact absurd rfl hne
  | cons c rest ih =>
    have hnumber : ¬ (c.isDigit = true ∧ inWord = false) := by
      rintro ⟨hdigit, hword⟩
      rw [hhead c rfl hdigit] at hword
      cases hword
    rw [List.cons_append, ofCodeFrom, dif_neg hnumber]
    cases rest with
    | nil =>
      rw [List.nil_append, ofCodeFrom_eq_ofCode (hlast c rfl)]
      cases hpieces : ofCode t with
      | nil => rfl
      | cons p pieces =>
        cases p with
        | code u => exact absurd (hpieces ▸ rfl) (hcode u)
        | number spelling => rfl
    | cons d tail =>
      have hrest := @ih (List.cons_ne_nil _ _) hchain.tail
        (fun a ha => hlast a (List.mem_getLast?_cons ha)) (isWord c) (fun e he => hchain.rel_head? he)
      rw [hrest]
      rfl

/-- The longest number in front of a text is cut out first, and what is behind it is split anew. -/
theorem ofCode_append_of_isLongestNumber {spelling t : Text}
    (h : IsLongestNumber spelling (spelling ++ t)) :
    ofCode (spelling ++ t) = number spelling :: ofCode t := by
  obtain ⟨n, rfl⟩ := h.exists_spelling
  obtain ⟨c, digits, hdigits⟩ := List.exists_cons_of_ne_nil n.digits_ne_nil
  have hc : c.isDigit = true := n.isDigit_digits c (by simp [hdigits])
  obtain ⟨tail, htext⟩ : ∃ tail, n.text ++ t = c :: tail :=
    ⟨_, by rw [NumberSpelling.text, hdigits]; rfl⟩
  rw [htext] at h
  have hnumber := h.eq (isLongestNumber_numberAt hc tail)
  have hafter : afterNumber (c :: tail) = t := by
    have hwhole := numberAt_append_afterNumber (c :: tail)
    rwa [← hnumber, ← htext, List.append_cancel_left_eq, htext] at hwhole
  rw [htext, ofCode, ofCodeFrom, dif_pos ⟨hc, rfl⟩, hafter, ← hnumber, ← ofCode]

end Piece

/-- The pieces of a text are settled from the front on: at a digit that goes on no word there must be
the longest number, and all else up to the next number must be code. -/
theorem SplitsAtNumbers.eq_ofCode {text : Text} {pieces : List Piece}
    (h : SplitsAtNumbers text pieces) : pieces = Piece.ofCode text := by
  induction pieces generalizing text with
  | nil =>
    obtain rfl := h.source_eq
    rw [List.flatMap_nil, Piece.ofCode, Piece.ofCodeFrom]
  | cons p rest ih =>
    have hrest := ih h.tail
    obtain rfl := h.source_eq
    rw [List.flatMap_cons]
    cases p with
    | number spelling =>
      have hlongest := h.longest spelling rest (List.suffix_refl _)
      rw [Piece.source, Piece.ofCode_append_of_isLongestNumber hlongest, ← hrest]
    | code s =>
      obtain ⟨hhead, hchain⟩ := h.digits s List.mem_cons_self
      have hjoint : ∀ f ∈ (rest.map Piece.toFragment).head?, Fragment.Joint (.code s) f :=
        fun f hf => h.apart.rel_head? hf
      rw [Piece.source, Piece.ofCode, Piece.ofCodeFrom_append_of_plain
        (h.ne_nil s List.mem_cons_self) hchain ?_ ?_ ?_, ← hrest]
      · intro a ha b hb hdigit
        cases rest with
        | nil => cases hb
        | cons q rest =>
          cases q with
          | code t => exact (hjoint _ rfl).elim
          | number spelling => exact hjoint _ rfl a ha
      · intro u hu
        rw [← hrest] at hu
        exact hjoint (.code u) (by rw [List.head?_map, Option.mem_def.mp hu]; rfl)
      · intro c hc hdigit
        rw [hhead c hc] at hdigit
        cases hdigit

/-- A text can be split at its numbers in one way, and so it is cut. -/
theorem existsUnique_splitsAtNumbers (text : Text) : ∃ pieces : List Piece,
    SplitsAtNumbers text pieces ∧ (∀ other, SplitsAtNumbers text other → other = pieces) ∧
      (Fragment.code text).cutNumbers = pieces.map Piece.toFragment :=
  ⟨Piece.ofCode text, Piece.splitsAtNumbers_ofCode text, fun _ h => h.eq_ofCode, rfl⟩

end SourceSimilarity.Canonical
