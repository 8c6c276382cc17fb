import SourceSimilarity.Proofs.Canonical.Form
import SourceSimilarity.Proofs.Canonical.Joining

/-!
# Numbers at a joint

No number goes from a text into the next one if the two characters at the joint rule it out. Then
the numbers are cut out of each text on its own, and a stretch of code between two texts keeps its
place among their fragments.
-/

namespace SourceSimilarity.Canonical

open Text

/-! ## Where a number ends -/

/-- No number that takes `a` takes `b` too. -/
def Parted (a b : Char) : Prop :=
  (isWord a = true → isWord b = false ∧ b ≠ '.') ∧ (a = '.' → b.isDigit = false)

/-- The texts may be put together and no number goes from the one to the other. -/
def NumbersPart (s t : Text) : Prop :=
  ∀ a ∈ s.getLast?, ∀ b ∈ t.head?, Parted a b

/-- No number takes the first of the two. -/
theorem Parted.of_left {a : Char} (hword : isWord a = false) (hpoint : a ≠ '.') (b : Char) :
    Parted a b := by
  constructor
  · intro ha
    rw [hword] at ha
    cases ha
  · intro ha
    exact absurd ha hpoint

/-- No number takes the second of the two. -/
theorem Parted.of_right {b : Char} (hword : isWord b = false) (hpoint : b ≠ '.') (a : Char) :
    Parted a b :=
  ⟨fun _ => ⟨hword, hpoint⟩, fun _ => isDigit_eq_false_of_not_isWord hword⟩

theorem Parted.of_isBlank_right {b : Char} (h : isBlank b = true) (a : Char) : Parted a b := by
  refine .of_right (isWord_eq_false_of_isBlank h) ?_ a
  rintro rfl
  exact absurd h (by decide)

theorem NumbersPart.of_suffix {s s' t : Text} (h : NumbersPart s t) (hs : s' <:+ s) :
    NumbersPart s' t := by
  intro a ha b hb
  obtain ⟨front, rfl⟩ := hs
  refine h a ?_ b hb
  rw [List.getLast?_append, Option.mem_def.mp ha, Option.some_or]
  rfl

/-- What a text loses in front does not depend on what follows it, if what follows its last
character would not be lost with that. -/
theorem dropWhile_append_of_last {p : Char → Bool} {s t : Text} (hs : s ≠ [])
    (h : ∀ a ∈ s.getLast?, p a = true → ∀ b ∈ t.head?, p b = false) :
    (s ++ t).dropWhile p = s.dropWhile p ++ t := by
  rw [List.dropWhile_append]
  split
  · rename_i hall
    rw [List.isEmpty_iff] at hall
    have hlast := List.dropWhile_eq_nil_iff.mp hall _ (List.getLast_mem hs)
    rw [hall, List.nil_append]
    cases t with
    | nil => rfl
    | cons b t =>
      exact List.dropWhile_cons_of_neg
        (by simp [h _ (List.getLast?_eq_getLast_of_ne_nil hs) hlast b rfl])
  · rfl

/-- Text that is a fraction to its end ends with a digit. -/
theorem last_of_afterFraction_eq_nil {s : Text} (h : afterFraction s = []) :
    ∀ a ∈ s.getLast?, a.isDigit = true := by
  unfold afterFraction at h
  split at h
  · rename_i d rest
    split at h
    · rename_i hd
      intro a ha
      rw [List.getLast?_cons_cons] at ha
      rcases List.mem_cons.mp (List.mem_of_getLast? ha) with rfl | hmem
      · exact hd
      · exact List.dropWhile_eq_nil_iff.mp h a hmem
    · cases h
  · subst h
    exact fun a ha => nomatch ha

theorem afterFraction_append {s t : Text} (h : NumbersPart s t)
    (hnil : s = [] → ∀ b ∈ t.head?, b ≠ '.') : afterFraction (s ++ t) = afterFraction s ++ t := by
  have hplain : ∀ {c : Char} (rest : Text), c ≠ '.' → afterFraction (c :: rest) = c :: rest := by
    intro c rest hc
    rw [afterFraction]
    rintro d tail heq
    exact hc (List.cons.inj heq).1
  cases s with
  | nil =>
    cases t with
    | nil => rfl
    | cons b t => exact hplain t (hnil rfl b rfl)
  | cons c rest =>
    by_cases hc : c = '.'
    · subst hc
      cases rest with
      | nil =>
        cases t with
        | nil => rfl
        | cons b t =>
          have hb : b.isDigit = false := (h '.' rfl b rfl).2 rfl
          simp [afterFraction, hb]
      | cons d rest =>
        by_cases hd : d.isDigit = true
        · have hdrop := dropWhile_append_of_last (p := Char.isDigit) (s := d :: rest) (t := t)
            (List.cons_ne_nil _ _) (fun a ha hdigit b hb => isDigit_eq_false_of_not_isWord
              ((h a (List.mem_getLast?_cons ha) b hb).1 (isWord_of_isDigit hdigit)).1)
          rw [List.cons_append, List.dropWhile_cons_of_pos hd, List.dropWhile_cons_of_pos hd]
            at hdrop
          rw [List.cons_append, List.cons_append, afterFraction, if_pos hd, hdrop, afterFraction,
            if_pos hd]
        · simp [afterFraction, hd]
    · rw [List.cons_append, hplain _ hc, hplain _ hc, List.cons_append]

/-- A text that is a number up to its fraction ends with a digit. -/
theorem last_of_afterFraction_digits_eq_nil {s : Text}
    (h : afterFraction (s.dropWhile Char.isDigit) = []) : ∀ a ∈ s.getLast?, a.isDigit = true := by
  intro a ha
  by_cases hnil : s.dropWhile Char.isDigit = []
  · exact List.dropWhile_eq_nil_iff.mp hnil a (List.mem_of_getLast? ha)
  · refine last_of_afterFraction_eq_nil h a ?_
    rwa [← List.takeWhile_append_dropWhile (p := Char.isDigit) (l := s),
      List.getLast?_append_of_ne_nil _ hnil] at ha

/-- What follows a number does not change with what follows the text that holds it. -/
theorem afterNumber_append {s t : Text} (hs : s ≠ []) (h : NumbersPart s t) :
    afterNumber (s ++ t) = afterNumber s ++ t := by
  have hafter : ∀ a ∈ s.getLast?, a.isDigit = true → ∀ b ∈ t.head?, isWord b = false ∧ b ≠ '.' :=
    fun a ha hdigit b hb => (h a ha b hb).1 (isWord_of_isDigit hdigit)
  have hdigits : (s ++ t).dropWhile Char.isDigit = s.dropWhile Char.isDigit ++ t :=
    dropWhile_append_of_last hs fun a ha hdigit b hb =>
      isDigit_eq_false_of_not_isWord (hafter a ha hdigit b hb).1
  have hend : ∀ a ∈ s.getLast?, ∀ b ∈ t.head?,
      afterFraction (s.dropWhile Char.isDigit) = [] → isWord b = false ∧ b ≠ '.' :=
    fun a ha b hb hnil => hafter a ha (last_of_afterFraction_digits_eq_nil hnil a ha) b hb
  have hsuffix : s.dropWhile Char.isDigit <:+ s := List.dropWhile_suffix _
  have hlast := List.getLast?_eq_getLast_of_ne_nil hs
  have hfraction : afterFraction (s.dropWhile Char.isDigit ++ t) =
      afterFraction (s.dropWhile Char.isDigit) ++ t :=
    afterFraction_append (h.of_suffix hsuffix) fun hnil b hb =>
      (hend _ hlast b hb (by rw [hnil]; rfl)).2
  rw [afterNumber, hdigits, hfraction, afterNumber]
  by_cases hnil : afterFraction (s.dropWhile Char.isDigit) = []
  · rw [hnil]
    cases t with
    | nil => rfl
    | cons b t => exact List.dropWhile_cons_of_neg (by simp [(hend _ hlast b rfl hnil).1])
  · exact dropWhile_append_of_last hnil fun a ha hword b hb =>
      (h.of_suffix ((afterFraction_suffix _).trans hsuffix) a ha b hb).1 hword |>.1

namespace Piece

/-- Where no number begins, it does not matter whether a word goes on. -/
theorem ofCodeFrom_eq_ofCode {inWord : Bool} {text : Text}
    (h : ∀ c ∈ text.head?, c.isDigit = true → inWord = false) :
    ofCodeFrom inWord text = ofCode text := by
  cases inWord with
  | false => rfl
  | true =>
    cases text with
    | nil => rw [ofCode, ofCodeFrom, ofCodeFrom]
    | cons c rest =>
      have hc : c.isDigit = false := by
        cases hdigit : c.isDigit with
        | false => rfl
        | true => exact absurd (h c rfl hdigit) (by simp)
      rw [ofCode, ofCodeFrom, dif_neg (by simp), ofCodeFrom, dif_neg (by simp [hc])]

/-- Texts that no number goes across are split each on its own. -/
theorem map_toFragment_ofCodeFrom_append {inWord : Bool} {s t : Text} (h : NumbersPart s t)
    (hnil : s = [] → ∀ c ∈ t.head?, c.isDigit = true → inWord = false) :
    (ofCodeFrom inWord (s ++ t)).map toFragment =
      Fragment.join ((ofCodeFrom inWord s).map toFragment) ((ofCode t).map toFragment) := by
  fun_induction ofCodeFrom inWord s with
  | case1 inWord =>
    rw [List.nil_append, ofCodeFrom_eq_ofCode (hnil rfl)]
    rfl
  | case2 inWord c rest hc ih =>
    have hsuffix : afterNumber (c :: rest) <:+ c :: rest :=
      ⟨numberAt (c :: rest), numberAt_append_afterNumber (c :: rest)⟩
    have hafter := afterNumber_append (List.cons_ne_nil c rest) h
    rw [List.cons_append] at hafter ⊢
    rw [ofCodeFrom, dif_pos hc, List.map_cons, List.map_cons, toFragment, toFragment,
      Fragment.join_literal_cons, hafter, ih (h.of_suffix hsuffix) fun _ _ _ _ => rfl]
  | case3 inWord c rest hc ih =>
    have hflag : rest = [] → ∀ d ∈ t.head?, d.isDigit = true → isWord c = false := by
      rintro rfl d hd hdigit
      cases hword : isWord c with
      | false => rfl
      | true =>
        have hnot := ((h c rfl d hd).1 hword).1
        rw [isWord_of_isDigit hdigit] at hnot
        cases hnot
    rw [List.cons_append, ofCodeFrom, dif_neg hc, map_toFragment_consCode, map_toFragment_consCode,
      ih (h.of_suffix (List.suffix_cons c rest)) hflag, Fragment.consCode_join]

/-- Code in which every digit goes on a word has no numbers, and leaves those behind it alone. -/
theorem map_toFragment_ofCodeFrom_plain {x t : Text}
    (h : x.IsChain fun a b => b.isDigit = true → isWord a = true)
    (hlast : ∀ a ∈ x.getLast?, ∀ b ∈ t.head?, b.isDigit = true → isWord a = false)
    {inWord : Bool} (hhead : ∀ c ∈ x.head?, c.isDigit = true → inWord = true)
    (hnil : x = [] → ∀ b ∈ t.head?, b.isDigit = true → inWord = false) :
    (ofCodeFrom inWord (x ++ t)).map toFragment =
      Fragment.consText x ((ofCode t).map toFragment) := by
  induction x generalizing inWord with
  | nil => rw [List.nil_append, ofCodeFrom_eq_ofCode (hnil rfl), Fragment.consText_nil]
  | cons c rest ih =>
    have hnumber : ¬ (c.isDigit = true ∧ inWord = false) := by
      rintro ⟨hdigit, hword⟩
      rw [hhead c rfl hdigit] at hword
      cases hword
    have hrest := @ih h.tail (fun a ha => hlast a (List.mem_getLast?_cons ha)) (isWord c)
      (fun d hd => h.rel_head? hd) (by rintro rfl; exact hlast c rfl)
    rw [List.cons_append, ofCodeFrom, dif_neg hnumber, map_toFragment_consCode, hrest,
      Fragment.consText_cons]

end Piece

namespace Fragment

/-- The numbers of two lists of fragments are cut out of each on its own, if none goes over the
joint. -/
theorem cutNumbers_join {fragments rest : List Fragment}
    (hne : ∀ s, code s ∈ fragments → s ≠ []) (hne' : ∀ t, code t ∈ rest → t ≠ [])
    (h : ∀ s t, code s ∈ fragments.getLast? → code t ∈ rest.head? → NumbersPart s t) :
    (join fragments rest).flatMap cutNumbers =
      join (fragments.flatMap cutNumbers) (rest.flatMap cutNumbers) := by
  fun_induction join fragments rest with
  | case1 s t rest =>
    have hs : s ≠ [] := hne s (by simp)
    have ht : t ≠ [] := hne' t (by simp)
    have hcut : cutNumbers (code (s ++ t)) = join (cutNumbers (code s)) (cutNumbers (code t)) :=
      Piece.map_toFragment_ofCodeFrom_append (h s t rfl rfl) (fun hnil => absurd hnil hs)
    rw [List.flatMap_cons, List.flatMap_cons, List.flatMap_cons, List.flatMap_nil,
      List.append_nil, hcut, join_append _ (cutNumbers_ne_nil fun u hu => by cases hu; exact ht)]
  | case2 f fragments rest hjoint ih =>
    rw [List.flatMap_cons, List.flatMap_cons]
    cases fragments with
    | nil =>
      -- the joint is at a literal, or there is nothing behind it
      rw [List.flatMap_nil, List.append_nil, join]
      cases f with
      | literal kind => rfl
      | code s =>
        cases rest with
        | nil => rw [List.flatMap_nil, join_nil, List.append_nil]
        | cons g rest =>
          cases g with
          | code t => exact absurd rfl (hjoint s t rest rfl rfl)
          | literal kind => exact (join_literal _ kind _).symm
    | cons g fragments =>
      have htail : ∀ s, code s ∈ g :: fragments → s ≠ [] :=
        fun s hs => hne s (List.mem_cons_of_mem _ hs)
      have hcut : (g :: fragments).flatMap cutNumbers ≠ [] := by
        rw [List.flatMap_cons]
        exact List.append_ne_nil_of_left_ne_nil
          (cutNumbers_ne_nil fun s hs => htail s (by simp [hs])) _
      rw [ih htail hne' (by simpa using h), append_join _ hcut]
  | case3 rest => rfl

/-- Code in which every digit goes on a word is cut nowhere, and what follows is cut on its own. -/
theorem cutNumbers_append {x : Text} (hx : x ≠ [])
    (hchain : x.IsChain fun a b => b.isDigit = true → isWord a = true)
    (hhead : ∀ c ∈ x.head?, c.isDigit = false) {t : Text}
    (hlast : ∀ a ∈ x.getLast?, ∀ b ∈ t.head?, b.isDigit = true → isWord a = false) :
    cutNumbers (code (x ++ t)) = consText x (cutNumbers (code t)) := by
  refine Piece.map_toFragment_ofCodeFrom_plain hchain hlast ?_ (fun hnil => absurd hnil hx)
  intro c hc hdigit
  rw [hhead c hc] at hdigit
  cases hdigit

theorem cutNumbers_plain {x : Text} (hx : x ≠ [])
    (hchain : x.IsChain fun a b => b.isDigit = true → isWord a = true)
    (hhead : ∀ c ∈ x.head?, c.isDigit = false) : cutNumbers (code x) = [code x] := by
  have hcut := cutNumbers_append hx hchain hhead (t := []) (fun _ _ _ hb => nomatch hb)
  rwa [List.append_nil, cutNumbers_code_nil, consText_eq_join hx, join_nil] at hcut

/-- Code in which every digit goes on a word keeps its place in front of the numbers. -/
theorem cutNumbers_consText {x : Text} (hx : x ≠ [])
    (hchain : x.IsChain fun a b => b.isDigit = true → isWord a = true)
    (hhead : ∀ c ∈ x.head?, c.isDigit = false) {fragments : List Fragment}
    (hne : ∀ t, code t ∈ fragments → t ≠ [])
    (hlast : ∀ t, code t ∈ fragments.head? → ∀ a ∈ x.getLast?, ∀ b ∈ t.head?,
      b.isDigit = true → isWord a = false) :
    (consText x fragments).flatMap cutNumbers = consText x (fragments.flatMap cutNumbers) := by
  have halone := cutNumbers_plain hx hchain hhead
  rw [consText_eq_join hx, consText_eq_join hx]
  cases fragments with
  | nil => rw [join_nil, List.flatMap_nil, join_nil, List.flatMap_cons, halone]; rfl
  | cons f rest =>
    cases f with
    | literal kind =>
      rw [join_literal, List.flatMap_append, List.flatMap_cons, List.flatMap_nil, halone]
      exact (join_literal [code x] kind _).symm
    | code t =>
      have ht : cutNumbers (code t) ≠ [] :=
        cutNumbers_ne_nil fun u hu => hne u (hu ▸ List.mem_cons_self)
      rw [join, List.flatMap_cons, cutNumbers_append hx hchain hhead (hlast t rfl),
        consText_eq_join hx, ← join_append _ ht]
      rfl

end Fragment

/-! ## Fragments of texts put together -/

namespace Piece

/-- Code at the end ends like the text. -/
theorem last_of_ofCodeFrom_code {inWord : Bool} {text u : Text}
    (h : code u ∈ (ofCodeFrom inWord text).getLast?) : text.getLast? = u.getLast? := by
  obtain ⟨front, hfront⟩ := List.getLast?_eq_some_iff.mp h
  have hsource := flatMap_source_ofCodeFrom inWord text
  have hu : u ≠ [] := ne_nil_of_mem_ofCodeFrom (List.mem_of_getLast? h)
  rw [hfront, List.flatMap_append, List.flatMap_cons, List.flatMap_nil, List.append_nil] at hsource
  rw [← hsource, source, List.getLast?_append_of_ne_nil _ hu]

end Piece

namespace Fragment

variable {fragments : List Fragment}

/-- Cutting the numbers leaves code at the end only where there was some, and it ends as before. -/
theorem last_cutNumbers (hne : ∀ s, code s ∈ fragments → s ≠ []) {u : Text}
    (h : code u ∈ (fragments.flatMap cutNumbers).getLast?) :
    ∃ s, code s ∈ fragments.getLast? ∧ s.getLast? = u.getLast? := by
  rcases List.eq_nil_or_concat fragments with rfl | ⟨front, f, rfl⟩
  · cases h
  · rw [List.concat_eq_append] at hne h ⊢
    have hcut : f.cutNumbers ≠ [] := cutNumbers_ne_nil fun s hs => hne s (by simp [hs])
    rw [List.flatMap_append, List.flatMap_cons, List.flatMap_nil, List.append_nil,
      List.getLast?_append_of_ne_nil _ hcut] at h
    cases f with
    | literal kind => cases h
    | code s =>
      rw [cutNumbers, List.getLast?_map] at h
      obtain ⟨p, hp, heq⟩ := Option.map_eq_some_iff.mp h
      cases p with
      | code t =>
        cases heq
        exact ⟨s, by simp, Piece.last_of_ofCodeFrom_code hp⟩
      | number spelling => cases heq

/-- Cutting the numbers leaves code at the start only where there was some, and it starts as
before. -/
theorem head_cutNumbers (hne : ∀ s, code s ∈ fragments → s ≠ []) {v : Text}
    (h : code v ∈ (fragments.flatMap cutNumbers).head?) :
    ∃ t, code t ∈ fragments.head? ∧ t.head? = v.head? := by
  cases fragments with
  | nil => cases h
  | cons f rest =>
    have hcut : f.cutNumbers ≠ [] := cutNumbers_ne_nil fun s hs => hne s (by simp [hs])
    rw [List.flatMap_cons, List.head?_append_of_ne_nil _ hcut] at h
    cases f with
    | literal kind => cases h
    | code t =>
      rw [cutNumbers, List.head?_map] at h
      obtain ⟨p, hp, heq⟩ := Option.map_eq_some_iff.mp h
      cases p with
      | code s =>
        cases heq
        obtain ⟨pieces, hpieces⟩ := List.head?_eq_some_iff.mp hp
        exact ⟨t, rfl, Piece.head_of_ofCodeFrom_code hpieces⟩
      | number spelling => cases heq

end Fragment

theorem ne_nil_of_mem_read {mode : Mode} {text : Text} :
    ∀ s, .code s ∈ mode.read text → s ≠ [] :=
  fun s hs => (Mode.plainCode_read mode text s hs).ne_nil

/-- What holds of the space of a comment and of the last character of a text that ends in code holds
of the end of the code among its fragments. -/
theorem forall_last_fragments {a : Text} (hend : Mode.code.after a = .code) {P : Char → Prop}
    (hspace : P ' ') (ha : ∀ c ∈ a.getLast?, P c) {u : Text}
    (hu : .code u ∈ (fragments a).getLast?) : ∀ c ∈ u.getLast?, P c := by
  rw [fragments_eq] at hu
  obtain ⟨s, hs, hlast⟩ := Fragment.last_cutNumbers ne_nil_of_mem_read hu
  exact hlast ▸ Mode.forall_last_read hend hspace ha s hs

/-- What holds of plain blanks and of the first character of a text holds of the start of the code
among its fragments. -/
theorem forall_head_fragments {b : Text} {P : Char → Prop} (hblank : ∀ c, PlainBlank c → P c)
    (hb : ∀ c ∈ b.head?, P c) {v : Text} (hv : .code v ∈ (fragments b).head?) :
    ∀ c ∈ v.head?, P c := by
  rw [fragments_eq] at hv
  obtain ⟨t, ht, hhead⟩ := Fragment.head_cutNumbers ne_nil_of_mem_read hv
  exact hhead ▸ Mode.forall_head_read hblank hb t ht

/-- A text that the reader takes for a stretch of code keeps it between the fragments of the texts
on its two sides, if no number goes over its ends or begins in it. -/
theorem fragments_append_code {a y b x : Text}
    (hend : Mode.code.after a = .code ∨ Mode.code.after a = .lineComment)
    (hslash : a.getLast? = some '/' → (y ++ b).head? ≠ some '/' ∧ (y ++ b).head? ≠ some '*')
    (hread : (Mode.code.after a).read (y ++ b) = Fragment.consText x (Mode.code.read b))
    (hx : x ≠ []) (hchain : x.IsChain fun a b => b.isDigit = true → isWord a = true)
    (hhead : ∀ c ∈ x.head?, c.isDigit = false)
    (hleft : ∀ s, .code s ∈ (Mode.code.read a).getLast? → NumbersPart s x)
    (hright : ∀ t, .code t ∈ (Mode.code.read b).head? →
      ∀ a ∈ x.getLast?, ∀ c ∈ t.head?, c.isDigit = true → isWord a = false) :
    fragments (a ++ (y ++ b)) =
      Fragment.join (fragments a) (Fragment.consText x (fragments b)) := by
  have hstart : ∀ t, .code t ∈ (Fragment.consText x (Mode.code.read b)).head? →
      t.head? = x.head? := by
    obtain ⟨c, rest, rfl⟩ := List.exists_cons_of_ne_nil hx
    exact fun t ht => Fragment.head_consCode ht
  rw [fragments_eq, Mode.read_append (by simp) hend hslash, hread, Fragment.cutNumbers_join
    ne_nil_of_mem_read, Fragment.cutNumbers_consText hx hchain hhead ne_nil_of_mem_read hright,
    ← fragments_eq, ← fragments_eq]
  · exact hread ▸ ne_nil_of_mem_read
  · intro s t hs ht c hc d hd
    exact hleft s hs c hc d (hstart t ht ▸ hd)

/-- A text that the reader takes for blanks keeps them between the fragments of the texts on its two
sides. -/
theorem fragments_append_blanks {a y b x : Text}
    (hend : Mode.code.after a = .code ∨ Mode.code.after a = .lineComment)
    (hslash : a.getLast? = some '/' → (y ++ b).head? ≠ some '/' ∧ (y ++ b).head? ≠ some '*')
    (hread : (Mode.code.after a).read (y ++ b) = Fragment.consText x (Mode.code.read b))
    (hx : x ≠ []) (hblank : ∀ c ∈ x, isBlank c = true) :
    fragments (a ++ (y ++ b)) =
      Fragment.join (fragments a) (Fragment.consText x (fragments b)) := by
  have hdigit : ∀ c ∈ x, c.isDigit = false := fun c hc =>
    isDigit_eq_false_of_not_isWord (isWord_eq_false_of_isBlank (hblank c hc))
  refine fragments_append_code hend hslash hread hx ?_ ?_ ?_ ?_
  · refine (List.pairwise_of_forall_mem_list fun a _ b hb hb' => ?_).isChain
    rw [hdigit b hb] at hb'
    cases hb'
  · exact fun c hc => hdigit c (List.mem_of_head? hc)
  · exact fun s _ a _ b hb => .of_isBlank_right (hblank b (List.mem_of_head? hb)) a
  · exact fun t _ a ha _ _ _ => isWord_eq_false_of_isBlank (hblank a (List.mem_of_getLast? ha))

/-- Between the fragments of two texts, a stretch of code becomes one fragment with the code next
to it. -/
theorem exists_fragments_between (a b : Text) : ∃ front u v back,
    fragments a = front ++ Scan.codeFragment u ∧ fragments b = Scan.codeFragment v ++ back ∧
    (∀ s, .code s ∉ front.getLast?) ∧ (∀ t, .code t ∉ back.head?) ∧
    ∀ x, x ≠ [] → Fragment.join (fragments a) (Fragment.consText x (fragments b)) =
      front ++ .code (u ++ x ++ v) :: back := by
  have hseparated : ∀ source, (fragments source).IsChain Fragment.Separated :=
    fun source => (isChain_fragments source).imp fun _ _ hfg => hfg.separated
  have hne : ∀ source s, .code s ∈ fragments source → s ≠ [] :=
    fun source s hs => (plainCode_fragments source s hs).ne_nil
  obtain ⟨front, u, hu, hfront⟩ :=
    Fragment.exists_append_codeFragment (hseparated a) (hne a)
  obtain ⟨v, back, hv, hback⟩ :=
    Fragment.exists_codeFragment_append (hseparated b) (hne b)
  refine ⟨front, u, v, back, hu, hv, hfront, hback, fun x hx => ?_⟩
  rw [hu, hv, Fragment.join_consText_between hfront hback hx]

end SourceSimilarity.Canonical
