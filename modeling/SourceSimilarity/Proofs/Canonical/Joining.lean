import SourceSimilarity.Proofs.Canonical.Scanning

/-!
# Texts put together

When a first text leaves the reader in code, two texts put together are read as the fragments of the
one and those of the other, with the code at the joint in one fragment. Where the first text ends in
code, the code it leaves at the end is that with which it ends.
-/

namespace SourceSimilarity.Canonical

open Text

/-! ## Fragments put together -/

namespace Fragment

/-- Two lists of fragments one after the other. Code that meets at the joint is one fragment. -/
def join : List Fragment → List Fragment → List Fragment
  | [code s], code t :: rest => code (s ++ t) :: rest
  | f :: fragments, rest => f :: join fragments rest
  | [], rest => rest

@[simp] theorem join_nil (fragments : List Fragment) : join fragments [] = fragments := by
  induction fragments with
  | nil => rfl
  | cons f fragments ih => simp [join, ih]

@[simp] theorem join_literal (fragments : List Fragment) (kind : Literal) (rest : List Fragment) :
    join fragments (literal kind :: rest) = fragments ++ literal kind :: rest := by
  induction fragments with
  | nil => rfl
  | cons f fragments ih => simp [join, ih]

@[simp] theorem join_literal_cons (kind : Literal) (fragments rest : List Fragment) :
    join (literal kind :: fragments) rest = literal kind :: join fragments rest := by
  simp [join]

theorem join_cons_cons (f g : Fragment) (fragments rest : List Fragment) :
    join (f :: g :: fragments) rest = f :: join (g :: fragments) rest := by
  simp [join]

/-- A character of code in front of both is one in front of the first. -/
theorem consCode_join (c : Char) (fragments rest : List Fragment) :
    consCode c (join fragments rest) = join (consCode c fragments) rest := by
  cases fragments with
  | nil =>
    cases rest with
    | nil => rfl
    | cons g rest => cases g <;> simp [join, consCode]
  | cons f fragments =>
    cases f with
    | literal kind => simp [consCode, join]
    | code s =>
      cases fragments with
      | cons g fragments => simp [consCode, join_cons_cons]
      | nil =>
        cases rest with
        | nil => rfl
        | cons g rest => cases g <;> simp [join, consCode]

/-- The code at the end goes on with a character only if nothing stood behind that character. -/
theorem last_consCode {c : Char} {fragments : List Fragment}
    (hne : ∀ t, code t ∈ fragments → t ≠ []) {s : Text} {d : Char}
    (hs : code s ∈ (consCode c fragments).getLast?) (hd : d ∈ s.getLast?) :
    fragments = [] ∧ d = c ∨ ∃ t, code t ∈ fragments.getLast? ∧ d ∈ t.getLast? := by
  cases fragments with
  | nil =>
    obtain rfl : [c] = s := by simpa [consCode] using hs
    exact Or.inl ⟨rfl, (Option.some.inj hd).symm⟩
  | cons f fragments =>
    refine Or.inr ?_
    cases f with
    | literal kind => exact ⟨s, by simpa [consCode] using hs, hd⟩
    | code t =>
      cases fragments with
      | nil =>
        obtain rfl : c :: t = s := by simpa [consCode] using hs
        obtain ⟨e, tail, rfl⟩ := List.exists_cons_of_ne_nil (hne t (by simp))
        exact ⟨e :: tail, rfl, by simpa using hd⟩
      | cons g fragments => exact ⟨s, by simpa [consCode] using hs, hd⟩

theorem head_consCode {c : Char} {fragments : List Fragment} {t : Text}
    (h : code t ∈ (consCode c fragments).head?) : t.head? = some c := by
  unfold consCode at h
  split at h <;> (cases h; rfl)

/-- What stands in front of the last fragment does not see the joint. -/
theorem append_join (front : List Fragment) {fragments : List Fragment} (h : fragments ≠ [])
    (rest : List Fragment) : join (front ++ fragments) rest = front ++ join fragments rest := by
  obtain ⟨g, fragments, rfl⟩ := List.exists_cons_of_ne_nil h
  induction front with
  | nil => rfl
  | cons f front ih =>
    cases front with
    | nil => exact join_cons_cons f g fragments rest
    | cons e front =>
      rw [List.cons_append, List.cons_append, join_cons_cons, ← List.cons_append, ih]
      rfl

/-- What stands behind the first fragment does not see the joint. -/
theorem join_append (fragments : List Fragment) {rest : List Fragment} (h : rest ≠ [])
    (back : List Fragment) : join fragments (rest ++ back) = join fragments rest ++ back := by
  obtain ⟨g, rest, rfl⟩ := List.exists_cons_of_ne_nil h
  induction fragments with
  | nil => rfl
  | cons f fragments ih =>
    cases fragments with
    | nil => cases f <;> cases g <;> simp [join]
    | cons e fragments => rw [join_cons_cons, join_cons_cons, ih, List.cons_append]

/-! ### Code next to the joint -/

/-- A stretch of code in front is a fragment put together with what follows. -/
theorem consText_eq_join {x : Text} (hx : x ≠ []) (fragments : List Fragment) :
    consText x fragments = join [code x] fragments := by
  have hcode : ∀ s rest, consText x (code s :: rest) = code (x ++ s) :: rest := by
    intro s rest
    clear hx
    induction x with
    | nil => rfl
    | cons c x ih => rw [consText_cons, ih]; rfl
  cases fragments with
  | nil => rw [← Scan.codeFragment_append (by simp), Scan.codeFragment, if_neg (by simp [hx])]; rfl
  | cons f rest =>
    cases f with
    | code s => exact hcode s rest
    | literal kind =>
      rw [← Scan.codeFragment_append (by simp), Scan.codeFragment, if_neg (by simp [hx]),
        join_literal]

/-- The code at the end of a list of fragments, which may be empty, and what stands before it. -/
theorem exists_append_codeFragment {fragments : List Fragment} (h : fragments.IsChain Separated)
    (hne : ∀ s, code s ∈ fragments → s ≠ []) :
    ∃ front u, fragments = front ++ Scan.codeFragment u ∧ ∀ s, code s ∉ front.getLast? := by
  rcases List.eq_nil_or_concat fragments with rfl | ⟨front, f, rfl⟩
  · exact ⟨[], [], rfl, by simp⟩
  · rw [List.concat_eq_append] at h hne ⊢
    cases f with
    | literal kind => exact ⟨front ++ [literal kind], [], by simp [Scan.codeFragment], by simp⟩
    | code u =>
      have hu : u ≠ [] := hne u (by simp)
      refine ⟨front, u, by simp [Scan.codeFragment, hu], fun s hs => ?_⟩
      exact (List.isChain_append.mp h).2.2 _ hs _ rfl s u ⟨rfl, rfl⟩

/-- The code at the start of a list of fragments, which may be empty, and what stands behind it. -/
theorem exists_codeFragment_append {fragments : List Fragment} (h : fragments.IsChain Separated)
    (hne : ∀ s, code s ∈ fragments → s ≠ []) :
    ∃ v back, fragments = Scan.codeFragment v ++ back ∧ ∀ s, code s ∉ back.head? := by
  cases fragments with
  | nil => exact ⟨[], [], rfl, by simp⟩
  | cons f back =>
    cases f with
    | literal kind => exact ⟨[], literal kind :: back, rfl, by simp⟩
    | code v =>
      have hv : v ≠ [] := hne v (by simp)
      refine ⟨v, back, by simp [Scan.codeFragment, hv], fun s hs => ?_⟩
      exact h.rel_head? hs v s ⟨rfl, rfl⟩

/-- Behind a literal there is no joint. -/
theorem join_of_last {front : List Fragment} (h : ∀ s, code s ∉ front.getLast?)
    (rest : List Fragment) : join front rest = front ++ rest := by
  rcases List.eq_nil_or_concat front with rfl | ⟨front, f, rfl⟩
  · rfl
  · rw [List.concat_eq_append] at h ⊢
    cases f with
    | literal kind => rw [append_join _ (by simp), List.append_assoc, join_literal_cons]; rfl
    | code s => exact absurd (by simp) (h s)

/-- A stretch of code between two lists of fragments becomes one fragment with the code next to
it. -/
theorem join_consText_between {front back : List Fragment} {u v x : Text}
    (hfront : ∀ s, code s ∉ front.getLast?) (hback : ∀ s, code s ∉ back.head?) (hx : x ≠ []) :
    join (front ++ Scan.codeFragment u) (consText x (Scan.codeFragment v ++ back)) =
      front ++ code (u ++ x ++ v) :: back := by
  have hcode : ∀ s rest, back ≠ code s :: rest := by
    rintro s rest rfl
    exact hback s rfl
  have hmiddle : consText x (Scan.codeFragment v ++ back) = code (x ++ v) :: back := by
    rw [Scan.codeFragment_append hcode, ← consText_append, ← Scan.codeFragment_append hcode,
      Scan.codeFragment, if_neg (by simp [hx]), List.singleton_append]
  rw [hmiddle]
  by_cases hu : u = []
  · subst hu
    rw [show Scan.codeFragment [] = [] from rfl, List.append_nil, join_of_last hfront,
      List.nil_append]
  · rw [append_join _ (by simp [Scan.codeFragment, hu]), Scan.codeFragment, if_neg (by simp [hu])]
    simp [join]

end Fragment

/-! ## Texts read one after the other -/

namespace Mode

/-- The reader goes on where the first text leaves it, in code or in a line comment. The two texts
must not make a comment mark between them. -/
theorem read_append {mode : Mode} (hmode : ∀ quote, mode = quoted quote → isQuote quote = true)
    {a b : Text} (hend : mode.after a = code ∨ mode.after a = lineComment)
    (hslash : a.getLast? = some '/' → b.head? ≠ some '/' ∧ b.head? ≠ some '*') :
    mode.read (a ++ b) = Fragment.join (mode.read a) ((mode.after a).read b) := by
  have hrest : ∀ {c : Char} {rest : Text}, ((c :: rest).getLast? = some '/' →
      b.head? ≠ some '/' ∧ b.head? ≠ some '*') →
      rest.getLast? = some '/' → b.head? ≠ some '/' ∧ b.head? ≠ some '*' :=
    fun h hlast => h (List.mem_getLast?_cons hlast)
  fun_induction Mode.after mode a with
  | case1 mode => rw [read_nil, List.nil_append, Fragment.join]
  | case2 rest ih =>
    rw [List.cons_append, List.cons_append, read, read]
    exact ih (by simp) hend (hrest (hrest hslash))
  | case3 rest ih =>
    rw [List.cons_append, List.cons_append, read, read, ih (by simp) hend (hrest (hrest hslash)),
      Fragment.consCode_join]
  | case4 c rest h1 h2 hq ih =>
    rw [List.cons_append, read_code_quote hq, read_code_quote hq]
    refine ih ?_ hend (hrest hslash)
    rintro quote ⟨⟩
    exact hq
  | case5 c rest h1 h2 hq ih =>
    have hq : isQuote c = false := by simpa using hq
    have hmark := head_ne_of_unmarked h1 h2
    have hmark' : c = '/' → (rest ++ b).head? ≠ some '/' ∧ (rest ++ b).head? ≠ some '*' := by
      intro hc
      cases rest with
      | nil => exact hslash (by simp [hc])
      | cons d tail => exact hmark hc
    rw [List.cons_append, read_code_cons hq hmark', read_code_cons hq hmark,
      ih (by simp) hend (hrest hslash), Fragment.consCode_join]
  | case6 rest ih =>
    rw [List.cons_append, read, read, ih (by simp) hend (hrest hslash), Fragment.consCode_join]
  | case7 c rest h ih =>
    rw [List.cons_append, read, read, ih (by simp) hend (hrest hslash)]
    · exact h
    · exact h
  | case8 rest ih =>
    rw [List.cons_append, List.cons_append, read, read]
    exact ih (by simp) hend (hrest (hrest hslash))
  | case9 c rest h ih =>
    -- the comment closes further on, so the star of its end mark is not the last character
    have hne : rest ≠ [] := by
      rintro rfl
      simp at hend
    obtain ⟨d, tail, rfl⟩ := List.exists_cons_of_ne_nil hne
    rw [List.cons_append, read, read, ih (by simp) hend (hrest hslash)]
    · exact h
    · rintro after rfl heq
      exact h tail rfl (congrArg (· :: tail) (List.cons.inj heq).1)
  | case10 quote c rest ih =>
    rw [List.cons_append, List.cons_append, read, read]
    exact ih hmode hend (hrest (hrest hslash))
  | case11 quote rest h ih =>
    have hne := Scan.ne_backslash_of_isQuote (hmode quote rfl)
    rw [List.cons_append, read_quoted_cons hne, if_pos rfl, read_quoted_cons hne, if_pos rfl,
      ih (by simp) hend (hrest hslash), Fragment.join_literal_cons]
  | case12 quote c rest h hc ih =>
    have hne : c ≠ '\\' := by
      rintro rfl
      cases rest with
      | nil => simp at hend
      | cons d tail => exact h d tail rfl rfl
    rw [List.cons_append, read_quoted_cons hne, if_neg hc, read_quoted_cons hne, if_neg hc]
    exact ih hmode hend (hrest hslash)

/-- A text that ends in code and leaves nothing behind is empty, or was the rest of a block
comment. -/
theorem eq_nil_of_read_eq_nil {mode : Mode} {a : Text} (hend : mode.after a = code)
    (h : mode.read a = []) : mode = blockComment ∨ a = [] := by
  have hcons : ∀ c fragments, Fragment.consCode c fragments ≠ [] := by
    intro c fragments
    unfold Fragment.consCode
    split <;> simp
  -- a line comment or a literal that has closed has left its newline or its token
  have hopen : ∀ {inner : Mode} {rest : Text}, inner ≠ blockComment → inner ≠ code →
      inner.after rest = code → ¬ (inner = blockComment ∨ rest = []) := by
    rintro inner rest hblock hcode hafter (hmode | rfl)
    · exact hblock hmode
    · exact hcode (by simpa using hafter)
  fun_induction Mode.after mode a with
  | case1 mode => exact Or.inr rfl
  | case2 rest ih =>
    rw [read] at h
    exact absurd (ih hend h) (hopen (by simp) (by simp) hend)
  | case3 rest ih => exact absurd h (by simp [hcons])
  | case4 c rest h1 h2 hq ih =>
    rw [read_code_quote hq] at h
    exact absurd (ih hend h) (hopen (by simp) (by simp) hend)
  | case5 c rest h1 h2 hq ih => exact absurd h (by simp [hcons, hq])
  | case6 rest ih => exact absurd h (by simp [hcons])
  | case7 c rest hc ih =>
    rw [read] at h
    · exact absurd (ih hend h) (hopen (by simp) (by simp) hend)
    · exact hc
  | case8 rest ih => exact Or.inl rfl
  | case9 c rest hc ih => exact Or.inl rfl
  | case10 quote c rest ih =>
    rw [read] at h
    exact absurd (ih hend h) (hopen (by simp) (by simp) hend)
  | case11 quote rest hc ih => exact absurd h (by simp)
  | case12 quote c rest hc hne ih =>
    rw [read, if_neg hne] at h
    · exact absurd (ih hend h) (hopen (by simp) (by simp) hend)
    · exact hc

/-- Where a text ends in code, the code at the end of its fragments ends like the text, or with the
space of a block comment. -/
theorem last_read {mode : Mode} {a : Text} (hend : mode.after a = code) {s : Text} {d : Char}
    (hs : .code s ∈ (mode.read a).getLast?) (hd : d ∈ s.getLast?) : d ∈ a.getLast? ∨ d = ' ' := by
  have hcons : ∀ {c : Char} {rest : Text} {s : Text}, code.after rest = code →
      (∀ {t : Text}, .code t ∈ (code.read rest).getLast? → d ∈ t.getLast? →
        d ∈ rest.getLast? ∨ d = ' ') →
      .code s ∈ (Fragment.consCode c (code.read rest)).getLast? → d ∈ s.getLast? →
      d ∈ (c :: rest).getLast? ∨ d = ' ' := by
    intro c rest s hend ih hs hd
    have hne : ∀ t, .code t ∈ code.read rest → t ≠ [] :=
      fun t ht => (plainCode_read code rest t ht).ne_nil
    rcases Fragment.last_consCode hne hs hd with ⟨hnil, rfl⟩ | ⟨t, ht, hdt⟩
    · rcases eq_nil_of_read_eq_nil hend hnil with hmode | rfl
      · cases hmode
      · exact Or.inl rfl
    · exact (ih ht hdt).imp_left List.mem_getLast?_cons
  fun_induction Mode.after mode a generalizing s with
  | case1 mode => simp at hs
  | case2 rest ih =>
    rw [read] at hs
    exact (ih hend hs hd).imp_left fun h => List.mem_getLast?_cons (List.mem_getLast?_cons h)
  | case3 rest ih =>
    rw [read] at hs
    have hne : ∀ t, .code t ∈ blockComment.read rest → t ≠ [] :=
      fun t ht => (plainCode_read blockComment rest t ht).ne_nil
    rcases Fragment.last_consCode hne hs hd with ⟨-, rfl⟩ | ⟨t, ht, hdt⟩
    · exact Or.inr rfl
    · exact (ih hend ht hdt).imp_left fun h => List.mem_getLast?_cons (List.mem_getLast?_cons h)
  | case4 c rest h1 h2 hq ih =>
    rw [read_code_quote hq] at hs
    exact (ih hend hs hd).imp_left List.mem_getLast?_cons
  | case5 c rest h1 h2 hq ih =>
    rw [read, if_neg hq] at hs
    · exact hcons hend (ih hend) hs hd
    · exact h1
    · exact h2
  | case6 rest ih =>
    rw [read] at hs
    exact hcons hend (ih hend) hs hd
  | case7 c rest hc ih =>
    rw [read] at hs
    · exact (ih hend hs hd).imp_left List.mem_getLast?_cons
    · exact hc
  | case8 rest ih =>
    rw [read] at hs
    exact (ih hend hs hd).imp_left fun h => List.mem_getLast?_cons (List.mem_getLast?_cons h)
  | case9 c rest hc ih =>
    rw [read] at hs
    · exact (ih hend hs hd).imp_left List.mem_getLast?_cons
    · exact hc
  | case10 quote c rest ih =>
    rw [read] at hs
    exact (ih hend hs hd).imp_left fun h => List.mem_getLast?_cons (List.mem_getLast?_cons h)
  | case11 quote rest hc ih =>
    rw [read, if_pos rfl] at hs
    · refine (ih hend ?_ hd).imp_left List.mem_getLast?_cons
      cases hrest : code.read rest with
      | nil => simp [hrest] at hs
      | cons f fragments => rwa [hrest, List.getLast?_cons_cons] at hs
    · exact hc
  | case12 quote c rest hc hne ih =>
    rw [read, if_neg hne] at hs
    · exact (ih hend hs hd).imp_left List.mem_getLast?_cons
    · exact hc

/-- What holds of the space of a comment and of the last character of a text that ends in code holds
of the end of the code that the text leaves. -/
theorem forall_last_read {a : Text} (hend : code.after a = code) {P : Char → Prop} (hspace : P ' ')
    (ha : ∀ c ∈ a.getLast?, P c) :
    ∀ s, .code s ∈ (code.read a).getLast? → ∀ c ∈ s.getLast?, P c := by
  intro s hs c hc
  rcases last_read hend hs hc with hlast | rfl
  · exact ha c hlast
  · exact hspace

/-- What holds of plain blanks and of the first character of a text holds of the start of the code
that the text leaves. -/
theorem forall_head_read {b : Text} {P : Char → Prop} (hblank : ∀ c, c = ' ' ∨ c = '\n' → P c)
    (hb : ∀ c ∈ b.head?, P c) : ∀ t, .code t ∈ (code.read b).head? → ∀ c ∈ t.head?, P c := by
  intro t ht c hc
  obtain ⟨rest, hrest⟩ := List.head?_eq_some_iff.mp ht
  rcases head_read_code hrest hc with hhead | hplain
  · exact hb c hhead
  · exact hblank c hplain

end Mode

end SourceSimilarity.Canonical
