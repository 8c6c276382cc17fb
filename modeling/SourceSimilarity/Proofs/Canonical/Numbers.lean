import SourceSimilarity.Canonical.Number
import SourceSimilarity.Proofs.Canonical.Reading
import SourceSimilarity.Proofs.Text.Classes

/-!
# Cutting the numbers

Numbers are cut out of code without loss: the pieces, put together, are the code again. A number
token never touches a word on either side, and two number tokens never touch each other.
-/

namespace SourceSimilarity.Canonical

open Text

namespace Fragment

/-- Two fragments may stand side by side. Code does not stand next to code, and between a number and
a word there is something else. -/
def Joint : Fragment → Fragment → Prop
  | code _, code _ => False
  | code s, literal .number => ∀ c ∈ s.getLast?, isWord c = false
  | literal .number, code t => ∀ c ∈ t.head?, isWord c = false
  | literal .number, literal .number => False
  | _, _ => True

theorem joint_quoted_left {kind : Literal} (h : kind ≠ .number) (f : Fragment) :
    Joint (literal kind) f := by
  cases kind with
  | string => trivial
  | character => trivial
  | number => exact absurd rfl h

theorem joint_quoted_right {kind : Literal} (h : kind ≠ .number) (f : Fragment) :
    Joint f (literal kind) := by
  cases kind with
  | string => cases f with
    | code s => trivial
    | literal kind => cases kind <;> trivial
  | character => cases f with
    | code s => trivial
    | literal kind => cases kind <;> trivial
  | number => exact absurd rfl h

/-- Neither side of a number looks further than the next character. -/
theorem joint_cons {c : Char} {s : Text} (hs : s ≠ []) {f : Fragment}
    (h : Joint (code s) f) : Joint (code (c :: s)) f := by
  cases f with
  | code t => exact h
  | literal kind =>
    cases kind with
    | string => trivial
    | character => trivial
    | number =>
      obtain ⟨d, tail, rfl⟩ := List.exists_cons_of_ne_nil hs
      simpa only [Joint, List.getLast?_cons_cons] using h

/-- A character of code may come in front of a number if it belongs to no word. -/
theorem isChain_joint_consCode {c : Char} {fragments : List Fragment}
    (h : fragments.IsChain Joint) (hne : ∀ s, code s ∈ fragments → s ≠ [])
    (hnumber : literal .number ∈ fragments.head? → isWord c = false) :
    (consCode c fragments).IsChain Joint := by
  unfold consCode
  split
  · rename_i s rest
    exact h.tail.cons fun g hg => joint_cons (hne s List.mem_cons_self) (h.rel_head? hg)
  · rename_i hcode
    refine h.cons fun g hg => ?_
    cases g with
    | code t =>
      obtain ⟨rest, rfl⟩ := List.head?_eq_some_iff.mp hg
      exact absurd rfl (hcode t rest)
    | literal kind =>
      cases kind with
      | string => trivial
      | character => trivial
      | number => simpa [Joint] using hnumber hg

end Fragment

/-! ## Pieces -/

/-- A number is followed by something that belongs to no word. -/
theorem head_afterNumber {text : Text} {c : Char} (h : c ∈ (afterNumber text).head?) :
    isWord c = false := by
  have hnot := List.head?_dropWhile_not isWord (afterFraction (text.dropWhile Char.isDigit))
  rw [← afterNumber, Option.mem_def.mp h] at hnot
  simpa using hnot

namespace Piece

theorem flatMap_source_consCode (c : Char) (pieces : List Piece) :
    (consCode c pieces).flatMap source = c :: pieces.flatMap source := by
  unfold consCode
  split <;> rfl

/-- The pieces of a text, put together, are the text. -/
theorem flatMap_source_ofCodeFrom (inWord : Bool) (text : Text) :
    (ofCodeFrom inWord text).flatMap source = text := by
  fun_induction ofCodeFrom inWord text with
  | case1 => rfl
  | case2 inWord c rest h ih =>
    rw [List.flatMap_cons, ih, source, numberAt_append_afterNumber]
  | case3 inWord c rest h ih => rw [flatMap_source_consCode, ih]

theorem map_toFragment_consCode (c : Char) (pieces : List Piece) :
    (consCode c pieces).map toFragment = Fragment.consCode c (pieces.map toFragment) := by
  cases pieces with
  | nil => rfl
  | cons p rest => cases p <;> rfl

/-- No piece of code is empty. -/
theorem ne_nil_of_mem_ofCodeFrom {inWord : Bool} {text s : Text}
    (h : code s ∈ ofCodeFrom inWord text) : s ≠ [] := by
  fun_induction ofCodeFrom inWord text with
  | case1 => cases h
  | case2 inWord c rest hc ih =>
    rcases List.mem_cons.mp h with heq | hmem
    · cases heq
    · exact ih hmem
  | case3 inWord c rest hc ih =>
    unfold consCode at h
    split at h
    · rename_i t pieces hpieces
      rcases List.mem_cons.mp h with heq | hmem
      · cases heq
        exact List.cons_ne_nil _ _
      · exact ih (hpieces ▸ List.mem_cons_of_mem _ hmem)
    · rcases List.mem_cons.mp h with heq | hmem
      · cases heq
        exact List.cons_ne_nil _ _
      · exact ih hmem

/-- A piece of code is a stretch of the text. -/
theorem infix_of_mem_ofCodeFrom {inWord : Bool} {text s : Text}
    (h : code s ∈ ofCodeFrom inWord text) : s <:+: text := by
  have hstretch := List.infix_of_mem_flatten (List.mem_map_of_mem (f := source) h)
  rwa [← List.flatMap_def, flatMap_source_ofCodeFrom] at hstretch

/-- Code in front starts like the text. -/
theorem head_of_ofCodeFrom_code {inWord : Bool} {text s : Text} {pieces : List Piece}
    (h : ofCodeFrom inWord text = code s :: pieces) : text.head? = s.head? := by
  have hsource := flatMap_source_ofCodeFrom inWord text
  obtain ⟨c, tail, rfl⟩ :=
    List.exists_cons_of_ne_nil (ne_nil_of_mem_ofCodeFrom (h ▸ List.mem_cons_self))
  rw [← hsource, h]
  rfl

/-- A number in front starts the text, and does not go on a word. -/
theorem head_of_ofCodeFrom_number {inWord : Bool} {text spelling : Text} {pieces : List Piece}
    (h : ofCodeFrom inWord text = number spelling :: pieces) :
    inWord = false ∧ ∃ c ∈ text.head?, c.isDigit = true := by
  cases text with
  | nil =>
    rw [ofCodeFrom] at h
    cases h
  | cons c rest =>
    rw [ofCodeFrom] at h
    split at h
    · rename_i hc
      exact ⟨hc.2, c, rfl, hc.1⟩
    · unfold consCode at h
      split at h <;> cases h

/-- The pieces of a text stand side by side as they may. -/
theorem isChain_ofCodeFrom (inWord : Bool) (text : Text) :
    ((ofCodeFrom inWord text).map toFragment).IsChain Fragment.Joint := by
  fun_induction ofCodeFrom inWord text with
  | case1 => exact .nil
  | case2 inWord c rest h ih =>
    rw [List.map_cons]
    -- what follows the number starts outside words: it is no word, and no other number
    refine ih.cons fun f hf => ?_
    cases hpieces : ofCodeFrom false (afterNumber (c :: rest)) with
    | nil =>
      rw [hpieces] at hf
      cases hf
    | cons p pieces =>
      rw [hpieces] at hf
      obtain rfl := Option.some.inj hf
      cases p with
      | code s =>
        intro d hd
        exact head_afterNumber (head_of_ofCodeFrom_code hpieces ▸ hd)
      | number spelling =>
        obtain ⟨-, d, hd, hdigit⟩ := head_of_ofCodeFrom_number hpieces
        have hword := isWord_of_isDigit hdigit
        rw [head_afterNumber hd] at hword
        exact Bool.false_ne_true hword
  | case3 inWord c rest h ih =>
    rw [map_toFragment_consCode]
    -- a number can only follow if `c` belongs to no word, since the split was told about `c`
    refine Fragment.isChain_joint_consCode ih ?_ ?_
    · intro s hs
      obtain ⟨p, hp, heq⟩ := List.mem_map.mp hs
      cases p with
      | code t =>
        cases heq
        exact ne_nil_of_mem_ofCodeFrom hp
      | number spelling => cases heq
    · intro hnumber
      cases hpieces : ofCodeFrom (isWord c) rest with
      | nil =>
        rw [hpieces] at hnumber
        cases hnumber
      | cons p pieces =>
        rw [hpieces] at hnumber
        cases p with
        | code s => cases hnumber
        | number spelling => exact (head_of_ofCodeFrom_number hpieces).1

end Piece

/-! ## Fragments -/

namespace Mode

/-- The reader cuts no numbers. -/
theorem ne_number_of_mem_read {mode : Mode} {text : Text} {kind : Literal}
    (h : .literal kind ∈ mode.read text) : kind ≠ .number := by
  have hcons : ∀ {c fragments}, Fragment.literal kind ∈ Fragment.consCode c fragments →
      .literal kind ∈ fragments := by
    intro c fragments hmem
    unfold Fragment.consCode at hmem
    split at hmem <;> simpa using hmem
  fun_induction Mode.read mode text with
  | case1 => cases h
  | case2 rest ih => exact ih h
  | case3 rest ih => exact ih (hcons h)
  | case4 c rest h1 h2 hq ih => exact ih h
  | case5 c rest h1 h2 hq ih => exact ih (hcons h)
  | case6 rest ih => exact ih (hcons h)
  | case7 c rest hc ih => exact ih h
  | case8 rest ih => exact ih h
  | case9 c rest hc ih => exact ih h
  | case10 quote c rest ih => exact ih h
  | case11 quote rest hc ih =>
    rcases List.mem_cons.mp h with heq | hmem
    · cases heq
      unfold Literal.ofQuote
      split <;> decide
    · exact ih hmem
  | case12 quote c rest hc hne ih => exact ih h

end Mode

/-- A stretch of plain code is plain. -/
theorem PlainCode.stretch {s t : Text} (h : PlainCode t) (hs : s ≠ []) (hst : s <:+: t) :
    PlainCode s := by
  refine ⟨hs, fun c hc => h.quoteFree c (hst.subset hc), ?_⟩
  obtain ⟨front, back, rfl⟩ := hst
  exact h.unmarked.left_of_append.right_of_append

namespace Fragment

@[simp] theorem cutNumbers_code_nil : cutNumbers (code []) = [] := by
  rw [cutNumbers, Piece.ofCode, Piece.ofCodeFrom, List.map_nil]

/-- Cutting the numbers leaves plain code plain. -/
theorem plainCode_cutNumbers {fragments : List Fragment}
    (hplain : ∀ t, code t ∈ fragments → PlainCode t) :
    ∀ t, code t ∈ fragments.flatMap cutNumbers → PlainCode t := by
  intro t ht
  obtain ⟨f, hf, hcut⟩ := List.mem_flatMap.mp ht
  cases f with
  | code s =>
    obtain ⟨p, hp, heq⟩ := List.mem_map.mp hcut
    cases p with
    | code u =>
      cases heq
      exact (hplain s hf).stretch (Piece.ne_nil_of_mem_ofCodeFrom hp)
        (Piece.infix_of_mem_ofCodeFrom hp)
    | number spelling => cases heq
  | literal kind =>
    rw [cutNumbers, List.mem_singleton] at hcut
    cases hcut

theorem cutNumbers_ne_nil {f : Fragment} (h : ∀ t, f = code t → t ≠ []) : f.cutNumbers ≠ [] := by
  cases f with
  | code t =>
    intro hnil
    have hsource := Piece.flatMap_source_ofCodeFrom false t
    rw [← Piece.ofCode, List.map_eq_nil_iff.mp hnil] at hsource
    exact h t rfl hsource.symm
  | literal kind => exact List.cons_ne_nil _ _

/-- With their numbers cut out, fragments still stand side by side as they may. -/
theorem isChain_cutNumbers {fragments : List Fragment} (hsep : fragments.IsChain Separated)
    (hne : ∀ t, code t ∈ fragments → t ≠ [])
    (hquoted : ∀ kind, literal kind ∈ fragments → kind ≠ .number) :
    (fragments.flatMap cutNumbers).IsChain Joint := by
  rw [List.flatMap_def, List.isChain_flatten]
  · constructor
    · intro l hl
      obtain ⟨f, hf, rfl⟩ := List.mem_map.mp hl
      cases f with
      | code t => exact Piece.isChain_ofCodeFrom false t
      | literal kind => exact .singleton _
    · rw [List.isChain_map]
      refine hsep.imp_of_mem_imp fun f g hf hg hfg => ?_
      intro x hx y hy
      -- one of the two is a quoted literal, which may stand anywhere
      cases f with
      | literal kind =>
        obtain rfl := Option.some.inj hx
        exact joint_quoted_left (hquoted kind hf) y
      | code s =>
        cases g with
        | literal kind =>
          obtain rfl := Option.some.inj hy
          exact joint_quoted_right (hquoted kind hg) x
        | code t => exact absurd ⟨rfl, rfl⟩ (hfg s t)
  · intro hnil
    obtain ⟨f, hf, hcut⟩ := List.mem_map.mp hnil
    exact cutNumbers_ne_nil (fun t ht => hne t (ht ▸ hf)) hcut

end Fragment

end SourceSimilarity.Canonical
