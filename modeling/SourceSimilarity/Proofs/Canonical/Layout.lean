import SourceSimilarity.Canonical.Layout
import SourceSimilarity.Proofs.Canonical.Numbers
import SourceSimilarity.Proofs.Text.Lower

/-!
# Layout and letter case

Collapsing the blanks of plain code leaves single spaces and newlines, and no comment mark comes of
it. Lower case keeps that form. Neither pass brings a word next to a number.
-/

namespace SourceSimilarity.Canonical

open Text

/-- A blank as a canonical text has it. -/
def PlainBlank (c : Char) : Prop :=
  c = ' ' ∨ c = '\n'

theorem PlainBlank.isBlank {c : Char} (h : PlainBlank c) : isBlank c = true := by
  rcases h with rfl | rfl <;> decide

theorem PlainBlank.isWord_eq_false {c : Char} (h : PlainBlank c) : isWord c = false :=
  isWord_eq_false_of_isBlank h.isBlank

/-- `b` may follow `a` in code with its blanks collapsed. -/
def Spaced (a b : Char) : Prop :=
  Unmarked a b ∧ ¬ (isBlank a = true ∧ isBlank b = true)

theorem spaced_of_ne {a : Char} (hslash : a ≠ '/') (hblank : isBlank a = false) (b : Char) :
    Spaced a b := by
  refine ⟨unmarked_of_ne hslash b, ?_⟩
  rintro ⟨ha, -⟩
  rw [hblank] at ha
  exact Bool.false_ne_true ha

/-- Code with its blanks collapsed. -/
structure SpacedCode (text : Text) : Prop where
  ne_nil : text ≠ []
  quoteFree : ∀ c ∈ text, isQuote c = false
  spaced : text.IsChain Spaced
  plainBlank : ∀ c ∈ text, isBlank c = true → PlainBlank c

/-! ## Collapsing blanks -/

theorem plainBlank_of_mem_none : ∀ b ∈ (none : Option Char), PlainBlank b :=
  fun _ hb => nomatch hb

section Collapse

variable {pending : Option Char}

theorem plainBlank_getD (hp : ∀ b ∈ pending, PlainBlank b) : PlainBlank (pending.getD ' ') := by
  cases pending with
  | none => exact Or.inl rfl
  | some b => exact hp b rfl

/-- What collapsing leaves is a plain blank or no blank. -/
theorem mem_collapseFrom (hp : ∀ b ∈ pending, PlainBlank b) {text : Text} {d : Char}
    (h : d ∈ collapseFrom pending text) : PlainBlank d ∨ d ∈ text ∧ isBlank d = false := by
  fun_induction collapseFrom pending text with
  | case1 pending => exact Or.inl (hp d (by simpa using h))
  | case2 pending rest ih =>
    rcases ih (fun b hb => Or.inr (Option.some.inj hb).symm) h with hd | hd
    · exact Or.inl hd
    · exact Or.inr ⟨List.mem_cons_of_mem _ hd.1, hd.2⟩
  | case3 pending c rest hc hblank ih =>
    rcases ih (fun b hb => Option.some.inj hb ▸ plainBlank_getD hp) h with hd | hd
    · exact Or.inl hd
    · exact Or.inr ⟨List.mem_cons_of_mem _ hd.1, hd.2⟩
  | case4 pending c rest hc hblank ih =>
    rcases List.mem_append.mp h with hd | hd
    · exact Or.inl (hp d (by simpa using hd))
    · rcases List.mem_cons.mp hd with rfl | hd
      · exact Or.inr ⟨List.mem_cons_self, by simpa using hblank⟩
      · rcases ih plainBlank_of_mem_none hd with hd | hd
        · exact Or.inl hd
        · exact Or.inr ⟨List.mem_cons_of_mem _ hd.1, hd.2⟩

/-- What collapsing leaves in front is a plain blank, or stood in front before. -/
theorem head_collapseFrom (hp : ∀ b ∈ pending, PlainBlank b) {text : Text} {d : Char}
    (h : d ∈ (collapseFrom pending text).head?) :
    PlainBlank d ∨ pending = none ∧ d ∈ text.head? := by
  fun_induction collapseFrom pending text with
  | case1 pending =>
    cases pending with
    | none => cases h
    | some b => exact Or.inl (hp d h)
  | case2 pending rest ih =>
    rcases ih (fun b hb => Or.inr (Option.some.inj hb).symm) h with hd | ⟨hnone, -⟩
    · exact Or.inl hd
    · cases hnone
  | case3 pending c rest hc hblank ih =>
    rcases ih (fun b hb => Option.some.inj hb ▸ plainBlank_getD hp) h with hd | ⟨hnone, -⟩
    · exact Or.inl hd
    · cases hnone
  | case4 pending c rest hc hblank ih =>
    cases pending with
    | none => exact Or.inr ⟨rfl, h⟩
    | some b => exact Or.inl (hp d h)

theorem collapseFrom_ne_nil {text : Text} (h : pending = none → text ≠ []) :
    collapseFrom pending text ≠ [] := by
  fun_induction collapseFrom pending text with
  | case1 pending =>
    cases pending with
    | none => exact absurd rfl (h rfl)
    | some b => exact List.cons_ne_nil _ _
  | case2 pending rest ih => exact ih (fun hnone => nomatch hnone)
  | case3 pending c rest hc hblank ih => exact ih (fun hnone => nomatch hnone)
  | case4 pending c rest hc hblank ih =>
    exact List.append_ne_nil_of_right_ne_nil _ (List.cons_ne_nil _ _)

/-- What collapsing leaves at the end is a plain blank, or stood at the end before. -/
theorem last_collapseFrom (hp : ∀ b ∈ pending, PlainBlank b) {text : Text} {d : Char}
    (h : d ∈ (collapseFrom pending text).getLast?) : PlainBlank d ∨ d ∈ text.getLast? := by
  fun_induction collapseFrom pending text with
  | case1 pending =>
    cases pending with
    | none => cases h
    | some b => exact Or.inl (hp d h)
  | case2 pending rest ih =>
    exact (ih (fun b hb => Or.inr (Option.some.inj hb).symm) h).imp_right List.mem_getLast?_cons
  | case3 pending c rest hc hblank ih =>
    exact (ih (fun b hb => Option.some.inj hb ▸ plainBlank_getD hp) h).imp_right
      List.mem_getLast?_cons
  | case4 pending c rest hc hblank ih =>
    rw [List.getLast?_append_of_ne_nil _ (List.cons_ne_nil _ _)] at h
    by_cases hrest : rest = []
    · subst hrest
      exact Or.inr h
    · rw [List.getLast?_cons_of_ne_nil (collapseFrom_ne_nil fun _ => hrest)] at h
      exact (ih plainBlank_of_mem_none h).imp_right List.mem_getLast?_cons

/-- Collapsing blanks brings neither two blanks nor a comment mark together. -/
theorem isChain_collapseFrom (hp : ∀ b ∈ pending, PlainBlank b) {text : Text}
    (h : text.IsChain Unmarked) : (collapseFrom pending text).IsChain Spaced := by
  fun_induction collapseFrom pending text with
  | case1 pending => cases pending <;> simp
  | case2 pending rest ih => exact ih (fun b hb => Or.inr (Option.some.inj hb).symm) h.tail
  | case3 pending c rest hc hblank ih =>
    exact ih (fun b hb => Option.some.inj hb ▸ plainBlank_getD hp) h.tail
  | case4 pending c rest hc hblank ih =>
    have hblank : isBlank c = false := by simpa using hblank
    -- what follows `c` now is a blank, or followed it before
    have hrest : (c :: collapseFrom none rest).IsChain Spaced := by
      refine (ih plainBlank_of_mem_none h.tail).cons fun d hd => ⟨?_, by simp [hblank]⟩
      rcases head_collapseFrom plainBlank_of_mem_none hd with (rfl | rfl) | ⟨-, hd⟩
      · exact fun hmark => absurd hmark.2 (by decide)
      · exact fun hmark => absurd hmark.2 (by decide)
      · exact h.rel_head? hd
    cases pending with
    | none => exact hrest
    | some b =>
      refine hrest.cons fun d hd => ?_
      obtain rfl := Option.some.inj hd
      refine ⟨unmarked_of_ne ?_ c, by simp [hblank]⟩
      rintro rfl
      exact absurd (hp _ rfl).isBlank (by decide)

/-- The two sides of a character that is no blank collapse each on its own. -/
theorem collapseFrom_append_cons {c : Char} (hc : isBlank c = false) (s t : Text) :
    collapseFrom pending (s ++ c :: t) = collapseFrom pending s ++ c :: collapseBlanks t := by
  have hnewline : c ≠ '\n' := by
    rintro rfl
    exact absurd hc (by decide)
  induction s generalizing pending with
  | nil => simp [collapseFrom, collapseBlanks, hnewline, hc]
  | cons d s ih =>
    simp only [List.cons_append, collapseFrom, ih]
    split
    · rfl
    · split
      · rfl
      · rw [List.append_assoc, List.cons_append]

/-- A text without blanks parts the runs of blanks around it. -/
theorem collapseBlanks_append {x : Text} (hx : x ≠ []) (hblank : ∀ c ∈ x, isBlank c = false)
    (s t : Text) : collapseBlanks (s ++ (x ++ t)) =
      collapseBlanks s ++ (x ++ collapseBlanks t) := by
  induction x generalizing s with
  | nil => exact absurd rfl hx
  | cons c x ih =>
    rw [List.cons_append, collapseBlanks, collapseFrom_append_cons (hblank c List.mem_cons_self)]
    by_cases hnil : x = []
    · rw [hnil]
      rfl
    · have hrest := ih hnil (fun d hd => hblank d (List.mem_cons_of_mem _ hd)) []
      rw [List.nil_append] at hrest
      rw [hrest]
      rfl

end Collapse

/-- Where no word starts, none starts once blanks are collapsed. -/
theorem isWord_head_collapseBlanks {text : Text} (h : ∀ c ∈ text.head?, isWord c = false) :
    ∀ d ∈ (collapseBlanks text).head?, isWord d = false := by
  intro d hd
  rcases head_collapseFrom plainBlank_of_mem_none hd with hplain | ⟨-, hmem⟩
  · exact hplain.isWord_eq_false
  · exact h d hmem

/-- Where no word ends, none ends once blanks are collapsed. -/
theorem isWord_last_collapseBlanks {text : Text} (h : ∀ c ∈ text.getLast?, isWord c = false) :
    ∀ d ∈ (collapseBlanks text).getLast?, isWord d = false := by
  intro d hd
  rcases last_collapseFrom plainBlank_of_mem_none hd with hplain | hmem
  · exact hplain.isWord_eq_false
  · exact h d hmem

/-- Collapsing the blanks of plain code spaces it. -/
theorem PlainCode.collapseBlanks {text : Text} (h : PlainCode text) :
    SpacedCode (collapseBlanks text) := by
  refine ⟨collapseFrom_ne_nil fun _ => h.ne_nil, ?_,
    isChain_collapseFrom plainBlank_of_mem_none h.unmarked, ?_⟩
  · intro c hc
    rcases mem_collapseFrom plainBlank_of_mem_none hc with (rfl | rfl) | ⟨hmem, -⟩
    · decide
    · decide
    · exact h.quoteFree c hmem
  · intro c hc hblank
    rcases mem_collapseFrom plainBlank_of_mem_none hc with hplain | ⟨-, hnot⟩
    · exact hplain
    · rw [hnot] at hblank
      exact absurd hblank Bool.false_ne_true

/-! ## Lower case -/

theorem isQuote_eq_false_of_inert {c : Char} (h : Inert c) : isQuote c = false := by
  have hdouble : c ≠ '"' := h.ne (by decide) (by decide)
  have hsingle : c ≠ '\'' := h.ne (by decide) (by decide)
  simp [isQuote, hdouble, hsingle]

/-- A character of a word begins neither a literal nor a comment. -/
theorem not_mark_of_isWord {c : Char} (h : isWord c = true) : isQuote c = false ∧ c ≠ '/' := by
  refine ⟨isQuote_eq_false_of_inert (Or.inl h), ?_⟩
  rintro rfl
  exact absurd h (by decide)

/-- Where a word starts, no comment mark goes on. -/
theorem head_append_of_isWord {x : Text} (hx : x ≠ []) (h : ∀ c ∈ x.head?, isWord c = true)
    (b : Text) : (x ++ b).head? ≠ some '/' ∧ (x ++ b).head? ≠ some '*' := by
  have hne : ∀ d, isWord d = false → (x ++ b).head? ≠ some d := by
    intro d hd heq
    rw [List.head?_append_of_ne_nil _ hx] at heq
    rw [h d heq] at hd
    cases hd
  exact ⟨hne '/' (by decide), hne '*' (by decide)⟩

/-- What lower case makes of a word may stand anywhere in code. -/
theorem Spaced.of_inert_left {a : Char} (h : Inert a) (b : Char) : Spaced a b :=
  spaced_of_ne (h.ne (by decide) (by decide)) h.isBlank_eq_false b

theorem Spaced.of_inert_right {a b : Char} (h : Inert b) : Spaced a b := by
  refine ⟨?_, ?_⟩
  · rintro ⟨-, hb | hb⟩
    · exact h.ne (by decide) (by decide) hb
    · exact h.ne (by decide) (by decide) hb
  · rintro ⟨-, hb⟩
    rw [h.isBlank_eq_false] at hb
    exact Bool.false_ne_true hb

theorem isChain_lowerFrom {text : Text} (h : text.IsChain Spaced) (before : Text) :
    (lowerFrom before text).IsChain Spaced := by
  induction text generalizing before with
  | nil => exact .nil
  | cons c rest ih =>
    obtain ⟨image, himage, heq⟩ := lowerFrom_cons before c rest
    rw [heq, List.isChain_append]
    -- only what stands outside words can be a mark or a blank, and that is left as it was
    cases hword : isWord c with
    | false =>
      rw [himage.of_not_isWord hword]
      refine ⟨.singleton c, ih h.tail _, fun a ha b hb => ?_⟩
      obtain rfl := Option.some.inj ha
      obtain ⟨d, hd, ⟨-, rfl⟩ | ⟨-, hinert⟩⟩ := head_lowerFrom hb
      · exact h.rel_head? hd
      · exact .of_inert_right hinert
    | true =>
      have hinert := himage.inert hword
      have hspaced : ∀ a ∈ image, ∀ b, Spaced a b := fun a ha b => .of_inert_left (hinert a ha) b
      refine ⟨?_, ih h.tail _, fun a ha b _ => hspaced a (List.mem_of_getLast? ha) b⟩
      exact (List.pairwise_of_forall_mem_list fun a ha b _ => hspaced a ha b).isChain

/-- Lower case keeps code spaced. -/
theorem SpacedCode.lower {text : Text} (h : SpacedCode text) : SpacedCode text.lower := by
  refine ⟨lowerFrom_ne_nil h.ne_nil, ?_, isChain_lowerFrom h.spaced [], ?_⟩
  · intro c hc
    rcases mem_lowerFrom hc with hmem | hinert
    · exact h.quoteFree c hmem
    · exact isQuote_eq_false_of_inert hinert
  · intro c hc hblank
    rcases mem_lowerFrom hc with hmem | hinert
    · exact h.plainBlank c hmem hblank
    · rw [hinert.isBlank_eq_false] at hblank
      exact absurd hblank Bool.false_ne_true

/-! ## Numbers stay apart from words -/

namespace Fragment

/-- Code may be changed between numbers if no end of it becomes a part of a word. -/
theorem isChain_joint_mapCode {f : Text → Text} {fragments : List Fragment}
    (hhead : ∀ t, (∀ c ∈ t.head?, isWord c = false) → ∀ d ∈ (f t).head?, isWord d = false)
    (hlast : ∀ t, (∀ c ∈ t.getLast?, isWord c = false) → ∀ d ∈ (f t).getLast?, isWord d = false)
    (h : fragments.IsChain Joint) : (fragments.map (mapCode f)).IsChain Joint := by
  rw [List.isChain_map]
  refine h.imp fun x y hxy => ?_
  cases x with
  | code s =>
    cases y with
    | code t => exact hxy
    | literal kind =>
      cases kind with
      | string => trivial
      | character => trivial
      | number => exact hlast s hxy
  | literal kind =>
    cases y with
    | code t =>
      cases kind with
      | string => trivial
      | character => trivial
      | number => exact hhead t hxy
    | literal kind' => exact hxy

theorem isChain_joint_collapseBlanks {fragments : List Fragment} (h : fragments.IsChain Joint) :
    (fragments.map (mapCode collapseBlanks)).IsChain Joint :=
  isChain_joint_mapCode (fun _ => isWord_head_collapseBlanks)
    (fun _ => isWord_last_collapseBlanks) h

end Fragment

end SourceSimilarity.Canonical
