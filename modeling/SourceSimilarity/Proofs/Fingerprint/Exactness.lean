import SourceSimilarity.Proofs.Fingerprint.Hash

/-!
# Hash arithmetic is exact

Machine words wrap around and integers do not. An expression can be worked out in either, and comes
to the same in both if no value met on the way, worked out in integers, leaves the range of the
words. Here the hashes of a text, and the weight that they are computed with, are written down as
expressions, and none of the values met in these leaves that range.
-/

namespace SourceSimilarity.Fingerprint

/-! ## Expressions -/

/-- What is done with two values. -/
inductive Operation where
  | add
  | sub
  | mul
  | mod

namespace Operation

/-- The operation on machine words, which wraps around. -/
def onWords : Operation → UInt64 → UInt64 → UInt64
  | add, a, b => a + b
  | sub, a, b => a - b
  | mul, a, b => a * b
  | mod, a, b => a % b

/-- The operation on integers. -/
def onIntegers : Operation → Int → Int → Int
  | add, a, b => a + b
  | sub, a, b => a - b
  | mul, a, b => a * b
  | mod, a, b => a % b

/-- Where the integer is in the range of the words, the word is that integer. -/
theorem toNat_onWords (op : Operation) (a b : UInt64)
    (hnonneg : 0 ≤ op.onIntegers a.toNat b.toNat)
    (hlt : op.onIntegers a.toNat b.toNat < 2 ^ 64) :
    ((op.onWords a b).toNat : Int) = op.onIntegers a.toNat b.toNat := by
  cases op with
  | add =>
    simp only [onIntegers] at hlt
    rw [onWords, onIntegers, UInt64.toNat_add, Nat.mod_eq_of_lt (by omega), Int.natCast_add]
  | sub =>
    simp only [onIntegers] at hnonneg
    have hle : b ≤ a := by
      rw [UInt64.le_iff_toNat_le]
      omega
    rw [onWords, onIntegers, UInt64.toNat_sub_of_le _ _ hle, Int.ofNat_sub (by omega)]
  | mul =>
    simp only [onIntegers] at hlt
    rw [onWords, onIntegers, UInt64.toNat_mul, Nat.mod_eq_of_lt (by exact_mod_cast hlt),
      Int.natCast_mul]
  | mod => rw [onWords, onIntegers, UInt64.toNat_mod, Int.natCast_emod]

end Operation

/-- An expression as it is written down, before anything of it is worked out. -/
inductive Expression where
  | number (n : Nat)
  | apply (op : Operation) (a b : Expression)

namespace Expression

instance : Add Expression :=
  ⟨apply .add⟩

instance : Sub Expression :=
  ⟨apply .sub⟩

instance : Mul Expression :=
  ⟨apply .mul⟩

instance : Mod Expression :=
  ⟨apply .mod⟩

/-- What the expression comes to in machine words. -/
def word : Expression → UInt64
  | number n => .ofNat n
  | apply op a b => op.onWords a.word b.word

/-- What the expression comes to in integers. -/
def exact : Expression → Int
  | number n => n
  | apply op a b => op.onIntegers a.exact b.exact

/-- All expressions that are worked out on the way, this one included. -/
def parts : Expression → List Expression
  | number n => [number n]
  | apply op a b => apply op a b :: (a.parts ++ b.parts)

/-- No value met on the way leaves the range of the words. -/
def Fits (e : Expression) : Prop :=
  ∀ part ∈ e.parts, 0 ≤ part.exact ∧ part.exact < 2 ^ 64

variable {e a b : Expression}

theorem mem_parts_self (e : Expression) : e ∈ e.parts := by
  cases e <;> exact List.mem_cons_self

theorem mem_parts_trans {part inner : Expression} (hpart : part ∈ e.parts)
    (hinner : inner ∈ part.parts) : inner ∈ e.parts := by
  induction e with
  | number n =>
    rw [parts, List.mem_singleton] at hpart
    exact hpart ▸ hinner
  | apply op a b iha ihb =>
    rcases List.mem_cons.mp hpart with rfl | hpart
    · exact hinner
    · refine List.mem_cons_of_mem _ (List.mem_append.mpr ?_)
      exact (List.mem_append.mp hpart).imp iha ihb

theorem Fits.part (h : e.Fits) {part : Expression} (hpart : part ∈ e.parts) : part.Fits :=
  fun _ hinner => h _ (mem_parts_trans hpart hinner)

theorem Fits.nonneg (h : e.Fits) : 0 ≤ e.exact :=
  (h e (mem_parts_self e)).1

theorem Fits.lt (h : e.Fits) : e.exact < 2 ^ 64 :=
  (h e (mem_parts_self e)).2

/-- In machine words the expression comes to the same. -/
theorem Fits.toNat_word (h : e.Fits) : (e.word.toNat : Int) = e.exact := by
  induction e with
  | number n =>
    have hlt := h.lt
    rw [exact] at hlt ⊢
    rw [word, UInt64.toNat_ofNat_of_lt' (by exact_mod_cast hlt)]
  | apply op a b iha ihb =>
    have hnonneg := h.nonneg
    have hlt := h.lt
    have ha := iha (h.part (List.mem_cons_of_mem _ (List.mem_append_left _ (mem_parts_self a))))
    have hb := ihb (h.part (List.mem_cons_of_mem _ (List.mem_append_right _ (mem_parts_self b))))
    rw [exact, ← ha, ← hb] at hnonneg hlt ⊢
    exact op.toNat_onWords a.word b.word hnonneg hlt

-- out of range the two differ: below zero a word wraps around
example : (number 3 - number 5).exact = -2 ∧ (number 3 - number 5).word.toNat = 2 ^ 64 - 2 := by
  decide

/-! ## One operation more -/

theorem fits_number {n : Nat} (h : n < 2 ^ 64) : (number n).Fits := by
  intro part hpart
  rw [List.mem_singleton.mp hpart, exact]
  omega

theorem Fits.apply (ha : a.Fits) (hb : b.Fits) {op : Operation}
    (hnonneg : 0 ≤ op.onIntegers a.exact b.exact) (hlt : op.onIntegers a.exact b.exact < 2 ^ 64) :
    (Expression.apply op a b).Fits := by
  intro part hpart
  rcases List.mem_cons.mp hpart with rfl | hpart
  · exact ⟨hnonneg, hlt⟩
  · exact (List.mem_append.mp hpart).elim (ha part) (hb part)

theorem Fits.add (ha : a.Fits) (hb : b.Fits) (hlt : a.exact + b.exact < 2 ^ 64) : (a + b).Fits :=
  ha.apply hb (Int.add_nonneg ha.nonneg hb.nonneg) hlt

theorem Fits.sub (ha : a.Fits) (hb : b.Fits) (hle : b.exact ≤ a.exact) : (a - b).Fits :=
  ha.apply hb (Int.sub_nonneg_of_le hle)
    (Int.lt_of_le_of_lt (Int.sub_le_self _ hb.nonneg) ha.lt)

theorem Fits.mul (ha : a.Fits) (hb : b.Fits) (hlt : a.exact * b.exact < 2 ^ 64) : (a * b).Fits :=
  ha.apply hb (Int.mul_nonneg ha.nonneg hb.nonneg) hlt

/-! ## The hashes of a text -/

/-- The number that characters are the digits to. -/
def base : Expression :=
  number 256

/-- The prime. -/
def modulus : Expression :=
  number 1000000007

/-- A hash with one more character. -/
def append (hash : Expression) (c : Char) : Expression :=
  (hash * base + number c.toNat) % modulus

/-- The weight of the first of `width` characters. -/
def firstWeight (width : Nat) : Expression :=
  (List.range (width - 1)).foldl (fun weight _ => weight * base % modulus) (number 1)

/-- A hash without its first character. -/
def dropFirst (weight hash : Expression) (c : Char) : Expression :=
  (hash % modulus + modulus - number c.toNat * weight % modulus) % modulus

/-- The hashes of a window that is moved along. -/
def slide (weight hash : Expression) : Text → Text → List Expression
  | old :: leaving, new :: entering =>
    let next := append (dropFirst weight hash old) new
    next :: slide weight next leaving entering
  | _, _ => []

/-- The hash of one window by itself. -/
def windowHash (window : Text) : Expression :=
  window.foldl append (number 0)

/-- The hashes of all windows of a text. -/
def hashes (text : Text) (width : Nat) : List Expression :=
  if width = 0 ∨ text.length < width then []
  else
    let first := windowHash (text.take width)
    first :: slide (firstWeight width) first text (text.drop width)

/-! ## In machine words they are the hashes -/

theorem ofNat_eq_digit (c : Char) : UInt64.ofNat c.toNat = digit c := by
  apply UInt64.toNat_inj.mp
  have := toNat_digit_lt c
  rw [toNat_digit] at this ⊢
  exact UInt64.toNat_ofNat_of_lt' (Nat.lt_trans this (by decide))

theorem word_append (hash : Expression) (c : Char) :
    (hash.append c).word = Fingerprint.append hash.word c := by
  rw [Fingerprint.append, ← ofNat_eq_digit]
  rfl

theorem word_dropFirst (weight hash : Expression) (c : Char) :
    (dropFirst weight hash c).word = Fingerprint.dropFirst weight.word hash.word c := by
  rw [Fingerprint.dropFirst, ← ofNat_eq_digit]
  rfl

theorem word_firstWeight (width : Nat) :
    (firstWeight width).word = Fingerprint.firstWeight width :=
  (List.foldl_hom word fun _ _ => rfl).symm

theorem word_windowHash (window : Text) :
    (windowHash window).word = Fingerprint.windowHash window :=
  (List.foldl_hom word fun hash c => (word_append hash c).symm).symm

theorem map_word_slide (weight hash : Expression) (leaving entering : Text) :
    (slide weight hash leaving entering).map word =
      Fingerprint.slide weight.word hash.word leaving entering := by
  fun_induction slide weight hash leaving entering with
  | case1 hash old leaving new entering next ih =>
    rw [List.map_cons, ih, Fingerprint.slide, word_append, word_dropFirst]
  | case2 hash leaving entering hend =>
    rw [List.map_nil, Fingerprint.slide]
    exact hend

theorem map_word_hashes (text : Text) (width : Nat) :
    (hashes text width).map word = Fingerprint.hashes text width := by
  unfold hashes Fingerprint.hashes
  split
  · rfl
  · dsimp only
    rw [List.map_cons, map_word_slide, word_firstWeight, word_windowHash]

/-! ## No value leaves the range of the words -/

/-- Nothing left the range so far, and the value is one that a remainder can have. -/
structure Reduced (e : Expression) : Prop where
  fits : e.Fits
  lt : e.exact < 1000000007

theorem fits_modulus : modulus.Fits :=
  fits_number (by decide)

theorem Fits.reduced_mod (h : e.Fits) : (e % modulus).Reduced := by
  have hnonneg : 0 ≤ e.exact % 1000000007 := Int.emod_nonneg _ (by decide)
  have hlt : e.exact % 1000000007 < 1000000007 := Int.emod_lt_of_pos _ (by decide)
  exact ⟨h.apply fits_modulus hnonneg (Int.lt_trans hlt (by decide)), hlt⟩

theorem fits_char (c : Char) : (number c.toNat).Fits ∧ (number c.toNat).exact < 2 ^ 21 := by
  have := toNat_digit_lt c
  rw [toNat_digit] at this
  exact ⟨fits_number (by omega), by rw [exact]; omega⟩

theorem Reduced.fits_mul_base (h : e.Reduced) : (e * base).Fits :=
  h.fits.mul (fits_number (by decide)) (by have := h.lt; rw [base, exact]; omega)

theorem Reduced.append (h : e.Reduced) (c : Char) : (e.append c).Reduced := by
  obtain ⟨hfits, hlt⟩ := fits_char c
  have hproduct : (e * base).exact = e.exact * 256 := rfl
  refine (h.fits_mul_base.add hfits ?_).reduced_mod
  have := h.lt
  omega

theorem Reduced.dropFirst {weight : Expression} (hweight : weight.Reduced) (h : e.Reduced)
    (c : Char) : (dropFirst weight e c).Reduced := by
  obtain ⟨hfits, hlt⟩ := fits_char c
  have hproduct : (number c.toNat).exact * weight.exact < 2 ^ 64 :=
    calc
      (number c.toNat).exact * weight.exact ≤ 2 ^ 21 * 1000000007 :=
        Int.mul_le_mul (Int.le_of_lt hlt) (Int.le_of_lt hweight.lt) hweight.fits.nonneg (by decide)
      _ < 2 ^ 64 := by decide
  have hout := (hfits.mul hweight.fits hproduct).reduced_mod
  have hin := h.fits.reduced_mod
  have hmodulus : modulus.exact = 1000000007 := rfl
  have hsum : (e % modulus + modulus).exact = (e % modulus).exact + modulus.exact := rfl
  -- what is taken away is a remainder, so the modulus added in front of it is enough
  refine ((hin.fits.add fits_modulus ?_).sub hout.fits ?_).reduced_mod
  · have := hin.lt
    omega
  · have := hout.lt
    have := hin.fits.nonneg
    omega

theorem reduced_firstWeight (width : Nat) : (firstWeight width).Reduced := by
  unfold firstWeight
  induction width - 1 with
  | zero => exact ⟨fits_number (by decide), by decide⟩
  | succ n ih =>
    rw [List.range_succ, List.foldl_append]
    exact ih.fits_mul_base.reduced_mod

theorem reduced_windowHash (window : Text) : (windowHash window).Reduced := by
  induction window using List.reverseRecOn with
  | nil => exact ⟨fits_number (by decide), by decide⟩
  | append_singleton window c ih =>
    rw [windowHash, List.foldl_append]
    exact ih.append c

theorem reduced_of_mem_slide {weight hash : Expression} (hweight : weight.Reduced)
    (hhash : hash.Reduced) {leaving entering : Text}
    (h : e ∈ slide weight hash leaving entering) : e.Reduced := by
  fun_induction slide weight hash leaving entering with
  | case1 hash old leaving new entering next ih =>
    have hnext : next.Reduced := (hweight.dropFirst hhash old).append new
    rcases List.mem_cons.mp h with rfl | h
    · exact hnext
    · exact ih hnext h
  | case2 => cases h

theorem reduced_of_mem_hashes {text : Text} {width : Nat} (h : e ∈ hashes text width) :
    e.Reduced := by
  unfold hashes at h
  split at h
  · cases h
  · rcases List.mem_cons.mp h with rfl | h
    · exact reduced_windowHash _
    · exact reduced_of_mem_slide (reduced_firstWeight width) (reduced_windowHash _) h

end Expression

/-- The hashes of a text, and the weight they are computed with, are expressions worked out in
machine words. No value met in them is negative or too large for a word, so each is what it is in
integers. -/
theorem hashes_exact (text : Text) (width : Nat) :
    (Expression.firstWeight width).word = firstWeight width ∧
      (Expression.hashes text width).map Expression.word = hashes text width ∧
      ∀ e ∈ Expression.firstWeight width :: Expression.hashes text width,
        ∀ part ∈ e.parts,
          0 ≤ part.exact ∧ part.exact < 2 ^ 64 ∧ (part.word.toNat : Int) = part.exact := by
  refine ⟨Expression.word_firstWeight width, Expression.map_word_hashes text width, ?_⟩
  intro e he part hpart
  have hfits : e.Fits := by
    rcases List.mem_cons.mp he with rfl | he
    · exact (Expression.reduced_firstWeight width).fits
    · exact (Expression.reduced_of_mem_hashes he).fits
  obtain ⟨hnonneg, hlt⟩ := hfits part hpart
  exact ⟨hnonneg, hlt, (hfits.part hpart).toNat_word⟩

end SourceSimilarity.Fingerprint
