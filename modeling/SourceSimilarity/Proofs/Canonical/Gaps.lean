import SourceSimilarity.Proofs.Canonical.NumberJoints

/-!
# Gaps between code

Blanks and comments between two stretches of code are read as a run of blanks, and all that a
canonical text shows of the run is whether it breaks the line.
-/

namespace SourceSimilarity.Canonical

open Text

/-! ## What a gap is made of -/

/-- A blank, or a closed comment. The newline that ends a line comment belongs to it. -/
inductive Spacer where
  | blank (c : Char) (isBlank : isBlank c = true)
  | blockComment (body : Text) (noEnd : ¬ ['*', '/'] <:+: body)
  | lineComment (body : Text) (noBreak : '\n' ∉ body)

namespace Spacer

/-- How it stands in a source text. -/
def text : Spacer → Text
  | blank c _ => [c]
  | blockComment body _ => '/' :: '*' :: (body ++ ['*', '/'])
  | lineComment body _ => '/' :: '/' :: (body ++ ['\n'])

/-- There is a newline in it, outside block comments. -/
def breaksLine : Spacer → Bool
  | blank c _ => c == '\n'
  | blockComment _ _ => false
  | lineComment _ _ => true

/-- The blank that is left of it in code. -/
def residue : Spacer → Char
  | blank c _ => c
  | blockComment _ _ => ' '
  | lineComment _ _ => '\n'

theorem isBlank_residue (s : Spacer) : Text.isBlank s.residue = true := by
  cases s with
  | blank c h => exact h
  | blockComment body h => exact show Text.isBlank ' ' = true by decide
  | lineComment body h => exact show Text.isBlank '\n' = true by decide

theorem residue_eq_newline_iff (s : Spacer) : s.residue = '\n' ↔ s.breaksLine = true := by
  cases s with
  | blank c h => simp [residue, breaksLine]
  | blockComment body h => simp [residue, breaksLine]
  | lineComment body h => simp [residue, breaksLine]

end Spacer

/-- What may stand between two stretches of code and keeps them apart. -/
structure Gap where
  spacers : List Spacer
  ne_nil : spacers ≠ []

namespace Gap

/-- How it stands in a source text. -/
def text (gap : Gap) : Text :=
  gap.spacers.flatMap Spacer.text

/-- There is a newline in it, outside block comments. -/
def breaksLine (gap : Gap) : Bool :=
  gap.spacers.any Spacer.breaksLine

/-- The blanks that are left of it in code. -/
def residue (gap : Gap) : Text :=
  gap.spacers.map Spacer.residue

theorem residue_ne_nil (gap : Gap) : gap.residue ≠ [] := by
  simp [residue, gap.ne_nil]

theorem isBlank_of_mem_residue (gap : Gap) : ∀ c ∈ gap.residue, isBlank c = true := by
  intro c hc
  obtain ⟨s, -, rfl⟩ := List.mem_map.mp hc
  exact s.isBlank_residue

theorem newline_mem_residue_iff (gap : Gap) : '\n' ∈ gap.residue ↔ gap.breaksLine = true := by
  simp [residue, breaksLine, Spacer.residue_eq_newline_iff]

end Gap

/-! ## How a gap is read -/

/-- A block comment ends at the first end mark behind it. -/
theorem afterBlock_append {body : Text} (h : ¬ ['*', '/'] <:+: body) (rest : Text) :
    afterBlock (body ++ '*' :: '/' :: rest) = rest := by
  induction body with
  | nil => rfl
  | cons c body ih =>
    have hbody : ¬ ['*', '/'] <:+: body := by
      intro hend
      exact h (hend.trans (List.suffix_cons c body).isInfix)
    rw [List.cons_append, afterBlock, ih hbody]
    rintro tail rfl heq
    cases body with
    | nil => cases heq
    | cons d body =>
      obtain rfl : d = '/' := (List.cons.inj heq).1
      exact h ⟨[], body, rfl⟩

/-- A line comment ends at the newline behind it. -/
theorem afterLine_append {body : Text} (h : '\n' ∉ body) (rest : Text) :
    afterLine (body ++ '\n' :: rest) = '\n' :: rest := by
  rw [afterLine, List.dropWhile_append_of_pos, List.dropWhile_cons_of_neg (by simp)]
  intro c hc
  rw [bne_iff_ne]
  rintro rfl
  exact h hc

namespace Mode

theorem read_code_blank {c : Char} (h : isBlank c = true) (rest : Text) :
    code.read (c :: rest) = Fragment.consCode c (code.read rest) := by
  refine read_code_cons ?_ ?_
  · cases hq : isQuote c with
    | false => rfl
    | true =>
      simp only [isQuote, Bool.or_eq_true, beq_iff_eq] at hq
      rcases hq with rfl | rfl <;> exact absurd h (by decide)
  · rintro rfl
    exact absurd h (by decide)

/-- The reader sees a blank where a spacer stands. -/
theorem read_spacer (s : Spacer) (rest : Text) :
    code.read (s.text ++ rest) = Fragment.consCode s.residue (code.read rest) := by
  cases s with
  | blank c h => exact read_code_blank h rest
  | blockComment body h =>
    rw [Spacer.text, List.cons_append, List.cons_append, List.append_assoc, read,
      read_blockComment, List.cons_append, List.cons_append, List.nil_append,
      afterBlock_append h]
    rfl
  | lineComment body h =>
    rw [Spacer.text, List.cons_append, List.cons_append, List.append_assoc, read,
      read_lineComment, List.cons_append, List.nil_append, afterLine_append h,
      read_code_blank (by decide)]
    rfl

/-- The reader sees blanks where a gap stands. -/
theorem read_gap (gap : Gap) (rest : Text) :
    code.read (gap.text ++ rest) = Fragment.consText gap.residue (code.read rest) := by
  have hspacers : ∀ spacers : List Spacer, code.read (spacers.flatMap Spacer.text ++ rest) =
      Fragment.consText (spacers.map Spacer.residue) (code.read rest) := by
    intro spacers
    induction spacers with
    | nil => rfl
    | cons s spacers ih =>
      rw [List.flatMap_cons, List.append_assoc, read_spacer, ih, List.map_cons,
        Fragment.consText_cons]
  exact hspacers gap.spacers

end Mode

/-! ## How blanks collapse -/

/-- A run of blanks goes on with the run in front of it. -/
theorem collapseFrom_append_blanks {x : Text} (hx : x ≠ []) (hblank : ∀ c ∈ x, isBlank c = true)
    (pending : Option Char) (rest : Text) : collapseFrom pending (x ++ rest) =
      collapseFrom (some (if '\n' ∈ x then '\n' else pending.getD ' ')) rest := by
  induction x generalizing pending with
  | nil => exact absurd rfl hx
  | cons c x ih =>
    have hstep : collapseFrom pending (c :: (x ++ rest)) =
        collapseFrom (some (if c = '\n' then '\n' else pending.getD ' ')) (x ++ rest) := by
      by_cases hc : c = '\n'
      · rw [collapseFrom, if_pos hc, if_pos hc]
      · rw [collapseFrom, if_neg hc, if_pos (hblank c List.mem_cons_self), if_neg hc]
    rw [List.cons_append, hstep]
    by_cases hnil : x = []
    · subst hnil
      simp [eq_comm]
    · rw [ih hnil fun d hd => hblank d (List.mem_cons_of_mem _ hd)]
      by_cases hc : c = '\n'
      · simp [hc]
      · have hc' : ¬ '\n' = c := fun h => hc h.symm
        simp [hc, hc']

theorem collapseFrom_append_congr {y y' : Text}
    (h : ∀ pending, collapseFrom pending y = collapseFrom pending y') (s : Text)
    (pending : Option Char) : collapseFrom pending (s ++ y) = collapseFrom pending (s ++ y') := by
  induction s generalizing pending with
  | nil => exact h pending
  | cons c s ih => simp only [List.cons_append, collapseFrom, ih]

/-- Of a run of blanks between other text it only shows whether there is a newline in it. -/
theorem collapseBlanks_between {x x' : Text} (hx : x ≠ []) (hx' : x' ≠ [])
    (hblank : ∀ c ∈ x, isBlank c = true) (hblank' : ∀ c ∈ x', isBlank c = true)
    (h : '\n' ∈ x ↔ '\n' ∈ x') (u v : Text) :
    collapseBlanks (u ++ x ++ v) = collapseBlanks (u ++ x' ++ v) := by
  rw [List.append_assoc, List.append_assoc]
  refine collapseFrom_append_congr (fun pending => ?_) u none
  rw [collapseFrom_append_blanks hx hblank, collapseFrom_append_blanks hx' hblank']
  simp only [h]

/-! ## Gaps in a canonical text -/

theorem fragments_gap {a : Text} (hcode : Mode.code.after a = .code)
    (hslash : a.getLast? ≠ some '/') (gap : Gap) (b : Text) : fragments (a ++ (gap.text ++ b)) =
      Fragment.join (fragments a) (Fragment.consText gap.residue (fragments b)) :=
  fragments_append_blanks (Or.inl hcode) (fun h => absurd h hslash)
    (by rw [hcode, Mode.read_gap]) gap.residue_ne_nil gap.isBlank_of_mem_residue

/-- Of a gap behind code a canonical text only shows whether it breaks the line, whatever comments
and blanks it is made of and whatever stands around it. -/
theorem normalizeWith_gap (reserved : ReservedWords) {a : Text}
    (hcode : Mode.code.after a = .code) (hslash : a.getLast? ≠ some '/') (b : Text)
    {gap gap' : Gap} (hbreaks : gap.breaksLine = gap'.breaksLine) :
    normalizeWith reserved (a ++ gap.text ++ b) = normalizeWith reserved (a ++ gap'.text ++ b) := by
  obtain ⟨front, u, v, back, -, -, -, -, hbetween⟩ := exists_fragments_between a b
  have hcollapse := collapseBlanks_between gap.residue_ne_nil gap'.residue_ne_nil
    gap.isBlank_of_mem_residue gap'.isBlank_of_mem_residue
    (by rw [gap.newline_mem_residue_iff, gap'.newline_mem_residue_iff, hbreaks]) u v
  refine normalizeWith_congr ?_
  rw [List.append_assoc, List.append_assoc, fragments_gap hcode hslash,
    fragments_gap hcode hslash, hbetween _ gap.residue_ne_nil, hbetween _ gap'.residue_ne_nil,
    List.flatMap_append, List.flatMap_append, List.flatMap_cons, List.flatMap_cons,
    Fragment.spacedTokens, Fragment.spacedTokens, Fragment.mapCode, Fragment.mapCode, hcollapse]

/-- Behind a literal with a comment mark in it, a comment with a quote in it looks like a tab. -/
theorem normalizeWith_gap_behind_literal :
    Mode.code.after ['=', '"', '/', '/', '"'] = .code ∧
      ['=', '"', '/', '/', '"'].getLast? ≠ some '/' ∧
      ∃ gap gap' : Gap, gap.text = ['/', '*', '\'', '*', '/', ' '] ∧ gap'.text = ['\t'] ∧
        gap.breaksLine = gap'.breaksLine ∧
        normalizeWith .builtin (['=', '"', '/', '/', '"'] ++ gap.text ++ ['+', '1']) =
          normalizeWith .builtin (['=', '"', '/', '/', '"'] ++ gap'.text ++ ['+', '1']) := by
  refine ⟨by decide, by decide,
    ⟨[.blockComment ['\''] (by decide), .blank ' ' (by decide)], by simp⟩,
    ⟨[.blank '\t' (by decide)], by simp⟩, rfl, rfl, rfl, ?_⟩
  exact normalizeWith_gap .builtin (by decide) (by decide) _ rfl

end SourceSimilarity.Canonical
