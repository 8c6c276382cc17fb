import SourceSimilarity.Proofs.Canonical.NumberJoints

/-!
# The values of literals

Of a literal only its kind is read. Whatever stands between two quotes, and however a number is
spelled, the fragments in front of it and behind it are those of the texts on its two sides.
-/

namespace SourceSimilarity.Canonical

open Text

/-! ## Quoted literals -/

/-- The quote does not close in it, nor is it escaped behind it: every quote in it stands behind a
backslash that is not escaped itself, and no such backslash is left at its end. -/
def staysQuoted (quote : Char) : Text → Bool
  | [] => true
  | ['\\'] => false
  | '\\' :: _ :: rest => staysQuoted quote rest
  | c :: rest => c != quote && staysQuoted quote rest

/-- A literal closes at the quote behind its contents. -/
theorem afterQuote?_of_staysQuoted {quote : Char} (hquote : quote ≠ '\\') {contents : Text}
    (h : staysQuoted quote contents = true) (rest : Text) :
    afterQuote? quote (contents ++ quote :: rest) = some rest := by
  fun_induction staysQuoted quote contents with
  | case1 => rw [List.nil_append, afterQuote?_cons hquote, if_pos rfl]
  | case2 => cases h
  | case3 c tail ih => rw [List.cons_append, List.cons_append, afterQuote?, ih h]
  | case4 c tail h1 h2 ih =>
    rw [Bool.and_eq_true, bne_iff_ne] at h
    rw [List.cons_append, afterQuote?_cons (ne_backslash h1 h2), if_neg h.1, ih h.2]

/-- A quoted literal between two texts leaves its token, and no more of it. -/
theorem fragments_append_quoted {a : Text} (hcode : Mode.code.after a = .code) {quote : Char}
    (hq : isQuote quote = true) {contents : Text} (h : staysQuoted quote contents = true)
    (b : Text) : fragments (a ++ quote :: (contents ++ quote :: b)) =
      fragments a ++ .literal (Literal.ofQuote quote) :: fragments b := by
  have hread : Mode.code.read (quote :: (contents ++ quote :: b)) =
      .literal (Literal.ofQuote quote) :: Mode.code.read b := by
    rw [Mode.read_code_quote hq, Mode.read_quoted hq,
      afterQuote?_of_staysQuoted (Scan.ne_backslash_of_isQuote hq) h]
  have hslash : quote ≠ '/' ∧ quote ≠ '*' := by
    constructor
    · rintro rfl
      exact absurd hq (by decide)
    · rintro rfl
      exact absurd hq (by decide)
  rw [fragments_eq, Mode.read_append (by simp) (Or.inl hcode) (fun _ => by simpa using hslash),
    hcode, hread, Fragment.join_literal, List.flatMap_append, List.flatMap_cons, ← fragments_eq,
    ← fragments_eq]
  rfl

/-! ## Numbers -/

/-- The spelling of a number: digits, the digits of a fraction behind a point if there are any, and
the characters glued to its end. -/
structure NumberSpelling where
  digits : Text
  fraction : Text
  suffix : Text
  digits_ne_nil : digits ≠ []
  isDigit_digits : ∀ c ∈ digits, c.isDigit = true
  isDigit_fraction : ∀ c ∈ fraction, c.isDigit = true
  isWord_suffix : ∀ c ∈ suffix, isWord c = true

/-- What is left behind a word, if only its characters are in front, lies behind the word. -/
theorem dropWhile_isWord_suffix {word t s : Text} (hword : ∀ c ∈ word, isWord c = true)
    (h : s <:+ word ++ t) : s.dropWhile isWord <:+ t := by
  induction word generalizing s with
  | nil => exact (List.dropWhile_suffix _).trans h
  | cons c rest ih =>
    have hrest : ∀ d ∈ rest, isWord d = true := fun d hd => hword d (List.mem_cons_of_mem _ hd)
    rcases List.suffix_cons_iff.mp h with rfl | hsuffix
    · rw [List.dropWhile_cons_of_pos (hword c List.mem_cons_self)]
      exact ih hrest (List.suffix_refl _)
    · exact ih hrest hsuffix

namespace NumberSpelling

/-- The point and the digits behind it, or nothing. -/
def point (n : NumberSpelling) : Text :=
  if n.fraction.isEmpty then [] else '.' :: n.fraction

/-- How the number stands in a source text. -/
def text (n : NumberSpelling) : Text :=
  n.digits ++ (n.point ++ n.suffix)

variable (n : NumberSpelling)

theorem text_ne_nil : n.text ≠ [] :=
  List.append_ne_nil_of_left_ne_nil n.digits_ne_nil _

theorem isWord_or_eq_point {c : Char} (h : c ∈ n.text) : isWord c = true ∨ c = '.' := by
  rcases List.mem_append.mp h with hdigit | hbehind
  · exact Or.inl (isWord_of_isDigit (n.isDigit_digits c hdigit))
  · rcases List.mem_append.mp hbehind with hpoint | hsuffix
    · unfold point at hpoint
      split at hpoint
      · cases hpoint
      · rcases List.mem_cons.mp hpoint with rfl | hfraction
        · exact Or.inr rfl
        · exact Or.inl (isWord_of_isDigit (n.isDigit_fraction c hfraction))
    · exact Or.inl (n.isWord_suffix c hsuffix)

/-- The number at the front of a text takes at least what spells one there. -/
theorem afterNumber_suffix (t : Text) : afterNumber (n.text ++ t) <:+ t := by
  have hdigits : (n.text ++ t).dropWhile Char.isDigit =
      (n.point ++ (n.suffix ++ t)).dropWhile Char.isDigit := by
    rw [text, List.append_assoc, List.append_assoc]
    exact List.dropWhile_append_of_pos n.isDigit_digits
  rw [afterNumber, hdigits, point]
  cases hfraction : n.fraction with
  | nil =>
    exact dropWhile_isWord_suffix n.isWord_suffix
      ((afterFraction_suffix _).trans (List.dropWhile_suffix _))
  | cons d fraction =>
    have hdigit : ∀ c ∈ d :: fraction, c.isDigit = true := hfraction ▸ n.isDigit_fraction
    have hword : ∀ c ∈ fraction ++ n.suffix, isWord c = true := by
      intro c hc
      rcases List.mem_append.mp hc with hmem | hmem
      · exact isWord_of_isDigit (hdigit c (List.mem_cons_of_mem _ hmem))
      · exact n.isWord_suffix c hmem
    rw [if_neg (by simp), List.cons_append, List.cons_append,
      List.dropWhile_cons_of_neg (by decide), afterFraction, if_pos (hdigit d List.mem_cons_self),
      ← List.append_assoc]
    exact dropWhile_isWord_suffix hword (List.dropWhile_suffix _)

/-- The number takes the whole spelling. -/
theorem afterNumber_text : afterNumber n.text = [] := by
  have hsuffix := n.afterNumber_suffix []
  rwa [List.append_nil, List.suffix_nil] at hsuffix

/-- A number in front of something that it does not take is cut out of the code. -/
theorem cutNumbers_append {t : Text} (ht : ∀ c ∈ t.head?, isWord c = false ∧ c ≠ '.') :
    Fragment.cutNumbers (.code (n.text ++ t)) =
      .literal .number :: Fragment.cutNumbers (.code t) := by
  have hparted : NumbersPart n.text t :=
    fun a _ b hb => .of_right (ht b hb).1 (ht b hb).2 a
  have hafter := afterNumber_append n.text_ne_nil hparted
  rw [afterNumber_text, List.nil_append] at hafter
  obtain ⟨d, rest, hdigits⟩ := List.exists_cons_of_ne_nil n.digits_ne_nil
  have hd : d.isDigit = true := n.isDigit_digits d (by simp [hdigits])
  rw [text, hdigits, List.cons_append, List.cons_append] at hafter ⊢
  rw [Fragment.cutNumbers, Piece.ofCode, Piece.ofCodeFrom, dif_pos ⟨hd, rfl⟩, hafter]
  rfl

/-- A number in front of fragments that it does not go on with leaves its token. -/
theorem cutNumbers_consText {fragments : List Fragment}
    (h : ∀ t, .code t ∈ fragments.head? → ∀ c ∈ t.head?, isWord c = false ∧ c ≠ '.') :
    (Fragment.consText n.text fragments).flatMap Fragment.cutNumbers =
      .literal .number :: fragments.flatMap Fragment.cutNumbers := by
  have halone := n.cutNumbers_append (t := []) (by simp)
  rw [List.append_nil] at halone
  rw [Fragment.consText_eq_join n.text_ne_nil]
  cases fragments with
  | nil => simp [halone]
  | cons f rest =>
    cases f with
    | code t => simp [Fragment.join, n.cutNumbers_append (h t rfl)]
    | literal kind => simp [halone]

end NumberSpelling

/-- A number between two texts leaves its token, and no more of it. -/
theorem fragments_append_number {a : Text} (hcode : Mode.code.after a = .code)
    (ha : ∀ c ∈ a.getLast?, isWord c = false ∧ c ≠ '.') (n : NumberSpelling) {b : Text}
    (hb : ∀ c ∈ b.head?, isWord c = false ∧ c ≠ '.') :
    fragments (a ++ (n.text ++ b)) = fragments a ++ .literal .number :: fragments b := by
  have hplain : ∀ c ∈ n.text, isQuote c = false ∧ c ≠ '/' := by
    intro c hc
    rcases n.isWord_or_eq_point hc with hword | rfl
    · exact not_mark_of_isWord hword
    · decide
  have hread := Mode.read_code_append_of_ne hplain b
  have hhead : ∀ c ∈ n.text.head?, isWord c = true := by
    intro c hc
    rw [NumberSpelling.text, List.head?_append_of_ne_nil _ n.digits_ne_nil] at hc
    exact isWord_of_isDigit (n.isDigit_digits c (List.mem_of_head? hc))
  have hleft := Mode.forall_last_read hcode (by decide) ha
  have hright := Mode.forall_head_read (by rintro c (rfl | rfl) <;> decide) hb
  have hslash := head_append_of_isWord n.text_ne_nil hhead b
  rw [fragments_eq, Mode.read_append (by simp) (Or.inl hcode) (fun _ => hslash), hcode, hread,
    Fragment.cutNumbers_join ne_nil_of_mem_read (hread ▸ ne_nil_of_mem_read) ?_,
    n.cutNumbers_consText hright, Fragment.join_literal, ← fragments_eq, ← fragments_eq]
  intro s t hs _ c hc d _
  exact .of_left (hleft s hs c hc).1 (hleft s hs c hc).2 d

/-! ## Literals in a canonical text -/

/-- Of a literal behind code a canonical text shows only the kind: neither the contents between two
quotes nor the spelling of a number that stands apart from words and points can be told from
another, whatever stands around them. -/
theorem normalizeWith_literal_values (reserved : ReservedWords) {a : Text}
    (hcode : Mode.code.after a = .code) (b : Text) :
    (∀ quote contents contents', isQuote quote = true → staysQuoted quote contents = true →
      staysQuoted quote contents' = true →
      normalizeWith reserved (a ++ [quote] ++ contents ++ [quote] ++ b) =
        normalizeWith reserved (a ++ [quote] ++ contents' ++ [quote] ++ b)) ∧
    ∀ n n' : NumberSpelling, (∀ c ∈ a.getLast?, isWord c = false ∧ c ≠ '.') →
      (∀ c ∈ b.head?, isWord c = false ∧ c ≠ '.') →
      normalizeWith reserved (a ++ n.text ++ b) = normalizeWith reserved (a ++ n'.text ++ b) := by
  constructor
  · intro quote contents contents' hq h h'
    refine normalizeWith_congr ?_
    simp only [List.append_assoc, List.cons_append, List.nil_append]
    rw [fragments_append_quoted hcode hq h, fragments_append_quoted hcode hq h']
  · intro n n' ha hb
    refine normalizeWith_congr ?_
    rw [List.append_assoc, List.append_assoc, fragments_append_number hcode ha n hb,
      fragments_append_number hcode ha n' hb]

/-- A comment mark between quotes looks like an escaped quote, and a float like a hexadecimal
number. -/
theorem normalizeWith_literal_values_marks :
    Mode.code.after ['x', '='] = .code ∧
      (isQuote '"' = true ∧ staysQuoted '"' ['/', '*', '\''] = true ∧
        staysQuoted '"' ['\\', '"'] = true ∧
        normalizeWith .builtin (['x', '='] ++ ['"'] ++ ['/', '*', '\''] ++ ['"'] ++ [';']) =
          normalizeWith .builtin (['x', '='] ++ ['"'] ++ ['\\', '"'] ++ ['"'] ++ [';'])) ∧
      (∀ c ∈ ['x', '='].getLast?, isWord c = false ∧ c ≠ '.') ∧
      (∀ c ∈ [';'].head?, isWord c = false ∧ c ≠ '.') ∧
      ∃ n n' : NumberSpelling, n.text = ['1', '.', '5', 'f'] ∧ n'.text = ['0', 'x', '1', 'F'] ∧
        normalizeWith .builtin (['x', '='] ++ n.text ++ [';']) =
          normalizeWith .builtin (['x', '='] ++ n'.text ++ [';']) := by
  have ha : ∀ c ∈ ['x', '='].getLast?, isWord c = false ∧ c ≠ '.' := by
    rintro c ⟨⟩
    decide
  have hb : ∀ c ∈ [';'].head?, isWord c = false ∧ c ≠ '.' := by
    rintro c ⟨⟩
    decide
  have hvalues := normalizeWith_literal_values .builtin (a := ['x', '=']) (by decide) [';']
  refine ⟨by decide, ⟨by decide, by decide, by decide, ?_⟩, ha, hb, ?_⟩
  · exact hvalues.1 '"' _ _ (by decide) (by decide) (by decide)
  · exact ⟨⟨['1'], ['5'], ['f'], by simp, by simp, by simp, List.all_eq_true.mp (by decide)⟩,
      ⟨['0'], [], ['x', '1', 'F'], by simp, by simp, by simp, List.all_eq_true.mp (by decide)⟩,
      rfl, rfl, hvalues.2 _ _ ha hb⟩

end SourceSimilarity.Canonical
