import SourceSimilarity.Canonical.Scan
import SourceSimilarity.Proofs.Canonical.Reading

/-!
# The scans read characters

A scan over the bytes of a text stops where a reader over its characters does. It only ever cuts at
offsets that lie between two characters: an offset that a scan reaches through the middle of a
character is none at which it stops, since the bytes there are no marks.
-/

namespace SourceSimilarity.Canonical.Scan

/-! ## Bytes of a text -/

/-- The bytes of a text, in a list. -/
def bytesOf (text : Text) : List UInt8 :=
  text.flatMap String.utf8EncodeChar

/-- How many bytes a text takes. -/
def width (text : Text) : Nat :=
  (bytesOf text).length

@[simp] theorem bytesOf_nil : bytesOf [] = [] := by
  simp [bytesOf]

@[simp] theorem bytesOf_append (s t : Text) : bytesOf (s ++ t) = bytesOf s ++ bytesOf t :=
  List.flatMap_append

@[simp] theorem bytesOf_cons (c : Char) (t : Text) :
    bytesOf (c :: t) = String.utf8EncodeChar c ++ bytesOf t := rfl

@[simp] theorem width_nil : width [] = 0 := by
  simp [width]

@[simp] theorem width_append (s t : Text) : width (s ++ t) = width s + width t := by
  simp [width]

theorem width_cons (c : Char) (t : Text) : width (c :: t) = c.utf8Size + width t := by
  simp [width]

theorem encode_eq (text : Text) : encode text = (bytesOf text).toByteArray := by
  rw [encode, String.toByteArray_ofList]
  rfl

@[simp] theorem size_encode (text : Text) : (encode text).size = width text := by
  rw [encode_eq, List.size_toByteArray, width]

theorem byte?_encode (text : Text) (offset : Nat) :
    byte? (encode text) offset = (bytesOf text)[offset]? := by
  unfold byte?
  split
  · rename_i h
    simp only [encode_eq] at h ⊢
    rw [List.getElem_toByteArray]
    rw [List.size_toByteArray] at h
    rw [List.getElem?_eq_getElem h]
  · rename_i h
    rw [size_encode, width] at h
    rw [List.getElem?_eq_none (by omega)]

/-- An ASCII character is one byte. -/
theorem utf8EncodeChar_ascii {c : Char} (h : c.toNat < 128) :
    String.utf8EncodeChar c = [c.toUInt8] := by
  have hsize : c.utf8Size = 1 := by
    rw [Char.utf8Size_eq_one_iff, UInt32.le_iff_toNat_le]
    exact Nat.le_of_lt_succ h
  rw [String.utf8EncodeChar_eq_singleton hsize]
  rfl

theorem width_singleton {c : Char} (h : c.toNat < 128) (s : Text) :
    width (s ++ [c]) = width s + 1 := by
  simp [width, utf8EncodeChar_ascii h]

theorem width_pair {c d : Char} (hc : c.toNat < 128) (hd : d.toNat < 128) (s : Text) :
    width (s ++ [c, d]) = width s + 2 := by
  simp [width, utf8EncodeChar_ascii hc, utf8EncodeChar_ascii hd]

/-- No byte of any other character is ASCII. -/
theorem le_of_mem_utf8EncodeChar {c : Char} (h : 128 ≤ c.toNat) {byte : UInt8}
    (hb : byte ∈ String.utf8EncodeChar c) : 128 ≤ byte.toNat := by
  have hv : c.val.toNat = c.toNat := rfl
  unfold String.utf8EncodeChar at hb
  rw [hv, if_neg (by omega)] at hb
  split at hb
  · simp only [List.mem_cons, List.not_mem_nil, or_false] at hb
    rcases hb with rfl | rfl <;> rw [UInt8.toNat_ofNat'] <;> omega
  · split at hb
    · simp only [List.mem_cons, List.not_mem_nil, or_false] at hb
      rcases hb with rfl | rfl | rfl <;> rw [UInt8.toNat_ofNat'] <;> omega
    · simp only [List.mem_cons, List.not_mem_nil, or_false] at hb
      rcases hb with rfl | rfl | rfl | rfl <;> rw [UInt8.toNat_ofNat'] <;> omega

theorem toNat_toUInt8_of_ascii {c : Char} (h : c.toNat < 128) : c.toUInt8.toNat = c.toNat := by
  rw [Char.toUInt8, UInt32.toNat_toUInt8]
  exact Nat.mod_eq_of_lt (Nat.lt_trans h (by decide))

/-- The byte with which a character begins goes on with no other; those behind it are not ASCII. -/
theorem utf8EncodeChar_eq_cons (c : Char) : ∃ byte tail,
    String.utf8EncodeChar c = byte :: tail ∧ (byte.toNat < 128 ∨ 192 ≤ byte.toNat) ∧
      ∀ b ∈ tail, 128 ≤ b.toNat := by
  by_cases hc : c.toNat < 128
  · refine ⟨_, _, utf8EncodeChar_ascii hc, Or.inl ?_, by simp⟩
    rw [toNat_toUInt8_of_ascii hc]
    exact hc
  · have htail : ∀ byte ∈ String.utf8EncodeChar c, 128 ≤ byte.toNat :=
      fun _ hb => le_of_mem_utf8EncodeChar (Nat.le_of_not_lt hc) hb
    have hv : c.val.toNat = c.toNat := rfl
    unfold String.utf8EncodeChar at htail ⊢
    dsimp only at htail ⊢
    rw [hv, if_neg (by omega)] at htail ⊢
    split at htail
    · refine ⟨_, _, if_pos ‹_›, Or.inr ?_, fun b hb => htail b (List.mem_cons_of_mem _ hb)⟩
      rw [UInt8.toNat_ofNat']
      omega
    · rw [if_neg ‹_›]
      split at htail
      · refine ⟨_, _, if_pos ‹_›, Or.inr ?_, fun b hb => htail b (List.mem_cons_of_mem _ hb)⟩
        rw [UInt8.toNat_ofNat']
        omega
      · refine ⟨_, _, if_neg ‹_›, Or.inr ?_, fun b hb => htail b (List.mem_cons_of_mem _ hb)⟩
        rw [UInt8.toNat_ofNat']
        omega

theorem ne_toUInt8_of_le {mark : Char} (hmark : mark.toNat < 128) {byte : UInt8}
    (h : 128 ≤ byte.toNat) : byte ≠ mark.toUInt8 := by
  rintro rfl
  rw [toNat_toUInt8_of_ascii hmark] at h
  omega

/-- A mark is found in the bytes of no other character. -/
theorem ne_of_mem_utf8EncodeChar {c mark : Char} (hmark : mark.toNat < 128) (hc : c ≠ mark)
    {byte : UInt8} (hb : byte ∈ String.utf8EncodeChar c) : byte ≠ mark.toUInt8 := by
  by_cases hascii : c.toNat < 128
  · rw [utf8EncodeChar_ascii hascii, List.mem_singleton] at hb
    rintro rfl
    have heq := congrArg UInt8.toNat hb
    rw [toNat_toUInt8_of_ascii hmark, toNat_toUInt8_of_ascii hascii] at heq
    exact hc (Char.toNat_inj.mp heq.symm)
  · exact ne_toUInt8_of_le hmark (le_of_mem_utf8EncodeChar (Nat.le_of_not_lt hascii) hb)

/-- Between two parts of a text, a mark is seen exactly if the second part begins with it. -/
theorem byte?_eq_mark_iff {text front rest : Text} (h : text = front ++ rest) {mark : Char}
    (hmark : mark.toNat < 128) :
    byte? (encode text) (width front) = some mark.toUInt8 ↔ rest.head? = some mark := by
  subst h
  rw [byte?_encode, bytesOf_append, width, List.getElem?_append_right (Nat.le_refl _), Nat.sub_self]
  cases rest with
  | nil => simp
  | cons c rest =>
    by_cases hc : c = mark
    · subst hc
      simp [utf8EncodeChar_ascii hmark]
    · obtain ⟨byte, tail, heq, _⟩ := utf8EncodeChar_eq_cons c
      have hne : byte ≠ mark.toUInt8 := ne_of_mem_utf8EncodeChar hmark hc (by simp [heq])
      simp [heq, hc, hne]

theorem byte?_mark {text front rest : Text} {mark : Char} (h : text = front ++ mark :: rest)
    (hmark : mark.toNat < 128) : byte? (encode text) (width front) = some mark.toUInt8 :=
  (byte?_eq_mark_iff h hmark).mpr rfl

/-- A mark is one byte, so what follows it is seen one byte further. -/
theorem byte?_succ_eq_mark_iff {text front rest : Text} {c : Char} (h : text = front ++ c :: rest)
    (hc : c.toNat < 128) {mark : Char} (hmark : mark.toNat < 128) :
    byte? (encode text) (width front + 1) = some mark.toUInt8 ↔ rest.head? = some mark := by
  rw [← width_singleton hc]
  exact byte?_eq_mark_iff (by simp [h]) hmark

theorem byte?_succ_mark {text front rest : Text} {c mark : Char}
    (h : text = front ++ c :: mark :: rest) (hc : c.toNat < 128) (hmark : mark.toNat < 128) :
    byte? (encode text) (width front + 1) = some mark.toUInt8 :=
  (byte?_succ_eq_mark_iff h hc hmark).mpr rfl

/-- At the end of a text there is no byte. -/
theorem byte?_eq_none {text : Text} {offset : Nat} (h : width text ≤ offset) :
    byte? (encode text) offset = none := by
  rw [byte?_encode, List.getElem?_eq_none h]

/-- What does not change along bytes of one kind does not change along a stretch of them. -/
theorem eq_of_skip {α : Type} {text : Text} {f : Nat → α} {P : UInt8 → Prop}
    (hstep : ∀ i byte, byte? (encode text) i = some byte → P byte → f i = f (i + 1))
    {front skipped back : List UInt8} (htext : bytesOf text = front ++ skipped ++ back)
    (hskip : ∀ byte ∈ skipped, P byte) :
    f front.length = f (front.length + skipped.length) := by
  induction skipped generalizing front with
  | nil => rfl
  | cons byte tail ih =>
    have hbyte : byte? (encode text) front.length = some byte := by
      rw [byte?_encode, htext]
      simp
    have htail := @ih (front ++ [byte]) (by simpa using htext)
      (fun b hb => hskip b (List.mem_cons_of_mem _ hb))
    rw [hstep _ _ hbyte (hskip byte List.mem_cons_self), List.length_cons,
      show front.length + (tail.length + 1) = front.length + 1 + tail.length by omega]
    simpa using htail

/-- A scan that no byte of a character stops goes over the whole character. -/
theorem eq_of_skip_char {α : Type} {text front rest : Text} {c : Char} {f : Nat → α}
    {P : UInt8 → Prop}
    (hstep : ∀ i byte, byte? (encode text) i = some byte → P byte → f i = f (i + 1))
    (htext : text = front ++ c :: rest) (hskip : ∀ byte ∈ String.utf8EncodeChar c, P byte) :
    f (width front) = f (width (front ++ [c])) := by
  have hbytes : bytesOf text = bytesOf front ++ String.utf8EncodeChar c ++ bytesOf rest := by
    simp [htext]
  have hskip := eq_of_skip hstep hbytes hskip
  simpa [width] using hskip

/-! ## Boundaries -/

/-- Between two parts of a text there is a boundary. -/
theorem isBoundary_width (s t : Text) : isBoundary (encode (s ++ t)) (width s) := by
  unfold isBoundary
  rw [size_encode, width_append, byte?_encode, bytesOf_append]
  cases t with
  | nil => simp
  | cons c t =>
    obtain ⟨byte, tail, hc, hbyte, _⟩ := utf8EncodeChar_eq_cons c
    have hget : (bytesOf s ++ bytesOf (c :: t))[width s]? = some byte := by
      rw [width, List.getElem?_append_right (Nat.le_refl _), Nat.sub_self, bytesOf_cons, hc]
      rfl
    rw [hget]
    simp only [Bool.or_eq_true, decide_eq_true_eq, UInt8.lt_iff_toNat_lt, UInt8.le_iff_toNat_le]
    exact Or.inr hbyte

/-- What lies between two boundaries is cut out as it stands. -/
theorem slice?_encode {text s t u : Text} (h : text = s ++ t ++ u) :
    slice? (encode text) (width s) (width (s ++ t)) = some t := by
  subst h
  have hstart : isBoundary (encode (s ++ t ++ u)) (width s) := by
    rw [List.append_assoc]
    exact isBoundary_width s (t ++ u)
  have hstop := isBoundary_width (s ++ t) u
  have hextract : (encode (s ++ t ++ u)).extract (width s) (width (s ++ t)) = t.utf8Encode := by
    rw [encode, String.toByteArray_ofList, List.append_assoc, List.utf8Encode_append,
      List.utf8Encode_append, width_append]
    have hs : width s = s.utf8Encode.size := by
      rw [← size_encode, encode, String.toByteArray_ofList]
    have ht : width t = t.utf8Encode.size := by
      rw [← size_encode, encode, String.toByteArray_ofList]
    have hfront := ByteArray.extract_append_size_add (a := s.utf8Encode)
      (b := t.utf8Encode ++ u.utf8Encode) (i := 0) (j := t.utf8Encode.size)
    rw [hs, ht, ← Nat.add_zero s.utf8Encode.size, Nat.add_assoc, Nat.zero_add, hfront,
      ByteArray.extract_append_eq_left rfl]
  rw [slice?, hstart, hstop, hextract, List.utf8Decode?_utf8Encode]
  simp

/-! ## Ends of literals and comments -/

theorem ascii_of_isQuote {c : Char} (h : isQuote c) : c.toNat < 128 := by
  simp only [isQuote, Bool.or_eq_true, beq_iff_eq] at h
  rcases h with rfl | rfl <;> decide

theorem ne_backslash_of_isQuote {c : Char} (h : isQuote c) : c ≠ '\\' := by
  rintro rfl
  exact absurd h (by decide)

theorem closingQuote?_of_byte {bytes : ByteArray} {quote byte : UInt8} {i : Nat}
    (h : byte? bytes i = some byte) : closingQuote? bytes quote i =
      if byte = '\\'.toUInt8 then closingQuote? bytes quote (i + 2)
      else if byte = quote then some (i + 1)
      else closingQuote? bytes quote (i + 1) := by
  rw [closingQuote?]
  split <;> simp_all

theorem closingQuote?_step {bytes : ByteArray} {quote : UInt8} (i : Nat) (byte : UInt8)
    (h : byte? bytes i = some byte) (hne : byte ≠ '\\'.toUInt8 ∧ byte ≠ quote) :
    closingQuote? bytes quote i = closingQuote? bytes quote (i + 1) := by
  rw [closingQuote?_of_byte h, if_neg hne.1, if_neg hne.2]

theorem closingQuote?_of_none {bytes : ByteArray} {quote : UInt8} {i : Nat}
    (h : byte? bytes i = none) : closingQuote? bytes quote i = none := by
  rw [closingQuote?]
  split <;> simp_all

/-- The scan for a closing quote ends where the reader of characters finds one. The byte behind a
backslash may be the first of several; those behind it are no quotes. -/
theorem closingQuote?_encode {quote : Char} (hq : isQuote quote) {text front rest : Text}
    (h : text = front ++ rest) :
    closingQuote? (encode text) quote.toUInt8 (width front) =
      (afterQuote? quote rest).map fun _ => width (front ++ throughQuote quote rest) := by
  fun_induction afterQuote? quote rest generalizing front with
  | case1 =>
    rw [closingQuote?_of_none (byte?_eq_none (by simp [h]))]
    rfl
  | case2 =>
    have hbyte := byte?_mark h (by decide)
    rw [closingQuote?_of_byte hbyte, if_pos rfl]
    exact closingQuote?_of_none (byte?_eq_none (by simp [h, width_cons]; decide))
  | case3 c tail ih =>
    have hbyte := byte?_mark h (by decide)
    have ih := @ih (front ++ ['\\', c]) (by simp [h])
    obtain ⟨byte, more, hc, _, hmore⟩ := utf8EncodeChar_eq_cons c
    have hbytes : bytesOf text =
        bytesOf front ++ ['\\'.toUInt8, byte] ++ more ++ bytesOf tail := by
      simp [h, hc, utf8EncodeChar_ascii (c := '\\') (by decide)]
    have hskip := eq_of_skip (@closingQuote?_step _ quote.toUInt8) hbytes (fun b hb =>
       ⟨ne_toUInt8_of_le (by decide) (hmore b hb),
        ne_toUInt8_of_le (ascii_of_isQuote hq) (hmore b hb)⟩)
    have hfront : (bytesOf front ++ ['\\'.toUInt8, byte]).length = width front + 2 := by
      simp [width]
    have hwidth : width (front ++ ['\\', c]) = width front + 2 + more.length := by
      simp [width, hc, utf8EncodeChar_ascii (c := '\\') (by decide)]
      omega
    rw [hfront, ← hwidth, ih] at hskip
    rw [closingQuote?_of_byte hbyte, if_pos rfl, hskip, throughQuote]
    simp
  | case4 tail h1 h2 =>
    have hne := ne_backslash_of_isQuote hq
    have hbyte := byte?_mark h (ascii_of_isQuote hq)
    have hbne : quote.toUInt8 ≠ '\\'.toUInt8 := ne_of_mem_utf8EncodeChar (by decide) hne
      (by simp [utf8EncodeChar_ascii (ascii_of_isQuote hq)])
    rw [closingQuote?_of_byte hbyte, if_neg hbne, if_pos rfl, throughQuote_cons hne, if_pos rfl]
    rw [Option.map_some, width_singleton (ascii_of_isQuote hq)]
  | case5 c tail h1 h2 hc ih =>
    have hne := ne_backslash h1 h2
    rw [eq_of_skip_char closingQuote?_step h, @ih (front ++ [c]) (by simp [h]),
      throughQuote_cons hne, if_neg hc]
    · simp
    · intro byte hb
      exact ⟨ne_of_mem_utf8EncodeChar (by decide) hne hb,
        ne_of_mem_utf8EncodeChar (ascii_of_isQuote hq) hc hb⟩

/-- The offset at which both passes go on behind a literal. -/
theorem getD_closingQuote?_encode {quote : Char} (hq : isQuote quote) {text front rest : Text}
    (h : text = front ++ rest) :
    (closingQuote? (encode text) quote.toUInt8 (width front)).getD (encode text).size =
      width (front ++ throughQuote quote rest) := by
  rw [closingQuote?_encode hq h]
  cases hafter : afterQuote? quote rest with
  | none => rw [throughQuote_of_open hafter, Option.map_none, Option.getD_none, size_encode, h]
  | some after => rfl

theorem lineEnd_of_byte {bytes : ByteArray} {byte : UInt8} {i : Nat}
    (h : byte? bytes i = some byte) :
    lineEnd bytes i = if byte = '\n'.toUInt8 then i else lineEnd bytes (i + 1) := by
  rw [lineEnd]
  split <;> simp_all

theorem lineEnd_of_none {bytes : ByteArray} {i : Nat} (h : byte? bytes i = none) :
    lineEnd bytes i = bytes.size := by
  rw [lineEnd]
  split <;> simp_all

/-- The scan for the end of a line ends where the reader of characters does. -/
theorem lineEnd_encode {text front rest : Text} (h : text = front ++ rest) :
    ∃ body, rest = body ++ afterLine rest ∧
      lineEnd (encode text) (width front) = width (front ++ body) := by
  induction rest generalizing front with
  | nil =>
    refine ⟨[], rfl, ?_⟩
    rw [lineEnd_of_none (byte?_eq_none (by simp [h])), size_encode, h]
  | cons c tail ih =>
    by_cases hc : c = '\n'
    · subst hc
      refine ⟨[], rfl, ?_⟩
      rw [lineEnd_of_byte (byte?_mark h (by decide)), if_pos rfl,
        List.append_nil]
    · obtain ⟨body, htail, hend⟩ := @ih (front ++ [c]) (by simp [h])
      refine ⟨c :: body, ?_, ?_⟩
      · rw [afterLine, List.dropWhile_cons_of_pos (by simpa using hc)]
        exact congrArg (c :: ·) htail
      · have hstep : ∀ i byte, byte? (encode text) i = some byte → byte ≠ '\n'.toUInt8 →
            lineEnd (encode text) i = lineEnd (encode text) (i + 1) := by
          intro i byte hbyte hne
          rw [lineEnd_of_byte hbyte, if_neg hne]
        rw [eq_of_skip_char hstep h (fun byte hb => ne_of_mem_utf8EncodeChar (by decide) hc hb),
          hend, List.append_assoc, List.singleton_append]

theorem blockEnd?_of_byte {bytes : ByteArray} {byte : UInt8} {i : Nat}
    (h : byte? bytes i = some byte) : blockEnd? bytes i =
      if byte = '*'.toUInt8 ∧ byte? bytes (i + 1) = some '/'.toUInt8 then some (i + 2)
      else blockEnd? bytes (i + 1) := by
  rw [blockEnd?]
  split <;> simp_all

theorem blockEnd?_of_none {bytes : ByteArray} {i : Nat} (h : byte? bytes i = none) :
    blockEnd? bytes i = none := by
  rw [blockEnd?]
  split <;> simp_all

/-- The scan for the end of a block comment ends where the reader of characters does. -/
theorem blockEnd?_encode {text front rest : Text} (h : text = front ++ rest) :
    ∃ body, rest = body ++ afterBlock rest ∧
      (blockEnd? (encode text) (width front)).getD (encode text).size = width (front ++ body) := by
  fun_induction afterBlock rest generalizing front with
  | case1 =>
    refine ⟨[], rfl, ?_⟩
    rw [blockEnd?_of_none (byte?_eq_none (by simp [h])), Option.getD_none, size_encode, h]
  | case2 tail =>
    refine ⟨['*', '/'], rfl, ?_⟩
    have hstar := byte?_mark h (by decide)
    have hslash := byte?_succ_mark h (by decide) (by decide)
    rw [blockEnd?_of_byte hstar, if_pos ⟨rfl, hslash⟩]
    simp [width, utf8EncodeChar_ascii (c := '*') (by decide),
      utf8EncodeChar_ascii (c := '/') (by decide)]
  | case3 c tail hmark ih =>
    obtain ⟨body, htail, hend⟩ := @ih (front ++ [c]) (by simp [h])
    refine ⟨c :: body, congrArg (c :: ·) htail, ?_⟩
    have hskip : blockEnd? (encode text) (width front) =
        blockEnd? (encode text) (width (front ++ [c])) := by
      by_cases hc : c = '*'
      · subst hc
        have hstar := byte?_mark h (by decide)
        have hslash : ¬ byte? (encode text) (width front + 1) = some '/'.toUInt8 := by
          rw [byte?_succ_eq_mark_iff h (by decide) (by decide), List.head?_eq_some_iff]
          rintro ⟨rest, rfl⟩
          exact hmark rest rfl rfl
        rw [blockEnd?_of_byte hstar, if_neg (fun hboth => hslash hboth.2)]
        simp [width, utf8EncodeChar_ascii (c := '*') (by decide)]
      · have hstep : ∀ i byte, byte? (encode text) i = some byte → byte ≠ '*'.toUInt8 →
            blockEnd? (encode text) i = blockEnd? (encode text) (i + 1) := by
          intro i byte hbyte hne
          rw [blockEnd?_of_byte hbyte, if_neg (fun hboth => hne hboth.1)]
        exact eq_of_skip_char hstep h
          (fun byte hb => ne_of_mem_utf8EncodeChar (by decide) hc hb)
    rw [hskip, hend, List.append_assoc, List.singleton_append]

/-! ## The two passes -/

theorem stripFrom_of_byte {bytes : ByteArray} {byte : UInt8} {copied i : Nat}
    (h : byte? bytes i = some byte) : stripFrom bytes copied i =
      if isQuoteByte byte then
        stripFrom bytes copied ((closingQuote? bytes byte (i + 1)).getD bytes.size)
      else if byte = '/'.toUInt8 ∧ byte? bytes (i + 1) = some '/'.toUInt8 then do
        let code ← slice? bytes copied i
        let stop := lineEnd bytes (i + 2)
        return code ++ (← stripFrom bytes stop stop)
      else if byte = '/'.toUInt8 ∧ byte? bytes (i + 1) = some '*'.toUInt8 then do
        let code ← slice? bytes copied i
        let stop := (blockEnd? bytes (i + 2)).getD bytes.size
        return code ++ ' ' :: (← stripFrom bytes stop stop)
      else stripFrom bytes copied (i + 1) := by
  rw [stripFrom]
  split <;> simp_all

theorem stripFrom_of_none {bytes : ByteArray} {copied i : Nat} (h : byte? bytes i = none) :
    stripFrom bytes copied i = slice? bytes copied bytes.size := by
  rw [stripFrom]
  split <;> simp_all

theorem isQuoteByte_of_mem {c : Char} (hq : isQuote c = false) {byte : UInt8}
    (hb : byte ∈ String.utf8EncodeChar c) : isQuoteByte byte = false := by
  simp only [isQuote, Bool.or_eq_false_iff, beq_eq_false_iff_ne] at hq
  simp only [isQuoteByte, Bool.or_eq_false_iff, beq_eq_false_iff_ne]
  exact ⟨ne_of_mem_utf8EncodeChar (by decide) hq.1 hb, ne_of_mem_utf8EncodeChar (by decide) hq.2 hb⟩

theorem literal_of_quote {c : Char} (hq : isQuote c) :
    (if c.toUInt8 = '"'.toUInt8 then Literal.string else Literal.character) =
      Literal.ofQuote c := by
  simp only [isQuote, Bool.or_eq_true, beq_iff_eq] at hq
  rcases hq with rfl | rfl <;> decide

theorem isQuoteByte_of_isQuote {c : Char} (hq : isQuote c) : isQuoteByte c.toUInt8 := by
  simp only [isQuote, Bool.or_eq_true, beq_iff_eq] at hq
  rcases hq with rfl | rfl <;> decide

/-- No slice of the comment stripper is off a boundary, and it gives the text without comments. -/
theorem stripFrom_encode {text front code rest : Text} (h : text = front ++ code ++ rest) :
    stripFrom (encode text) (width front) (width (front ++ code)) =
      some (code ++ stripComments rest) := by
  fun_induction stripComments rest generalizing front code with
  | case1 =>
    rw [stripFrom_of_none (byte?_eq_none (by simp [h])), size_encode,
      show width text = width (front ++ code) by simp [h], slice?_encode h, List.append_nil]
  | case2 rest ih =>
    have hslash := byte?_mark h (by decide)
    have hnext := byte?_succ_mark h (by decide) (by decide)
    have hslice := slice?_encode (u := '/' :: '/' :: rest) h
    obtain ⟨body, hrest, hend⟩ :=
      lineEnd_encode (show text = front ++ code ++ ['/', '/'] ++ rest by simp [h])
    have ih := @ih (front ++ code ++ ['/', '/'] ++ body) []
      (by rw [h, List.append_nil, List.append_assoc _ body, ← hrest]; simp)
    rw [stripFrom_of_byte hslash, if_neg (by decide), if_pos ⟨rfl, hnext⟩, hslice]
    rw [width_pair (by decide) (by decide)] at hend
    rw [List.append_nil, List.nil_append, ← hend] at ih
    simp only [ih, Option.bind_eq_bind, Option.bind_some, Option.pure_def]
  | case3 rest ih =>
    have hslash := byte?_mark h (by decide)
    have hnext := byte?_succ_mark h (by decide) (by decide)
    have hslice := slice?_encode (u := '/' :: '*' :: rest) h
    obtain ⟨body, hrest, hend⟩ :=
      blockEnd?_encode (show text = front ++ code ++ ['/', '*'] ++ rest by simp [h])
    have ih := @ih (front ++ code ++ ['/', '*'] ++ body) []
      (by rw [h, List.append_nil, List.append_assoc _ body, ← hrest]; simp)
    rw [stripFrom_of_byte hslash, if_neg (by decide), if_neg, if_pos ⟨rfl, hnext⟩, hslice]
    · rw [width_pair (by decide) (by decide)] at hend
      rw [List.append_nil, List.nil_append, ← hend] at ih
      simp only [ih, Option.bind_eq_bind, Option.bind_some, Option.pure_def]
    · rw [hnext]
      decide
  | case4 c rest h1 h2 hq ih =>
    have hbyte := byte?_mark h (ascii_of_isQuote hq)
    have hend :=
      getD_closingQuote?_encode hq (show text = front ++ code ++ [c] ++ rest by simp [h])
    have ih := @ih front (code ++ c :: throughQuote c rest)
      (by simp [h, throughQuote_append_afterQuote])
    rw [width_singleton (ascii_of_isQuote hq)] at hend
    rw [stripFrom_of_byte hbyte, if_pos (isQuoteByte_of_isQuote hq), hend]
    simpa using ih
  | case5 c rest h1 h2 hq ih =>
    have ih := @ih front (code ++ [c]) (by simp [h])
    have hq : isQuote c = false := by simpa using hq
    have hskip : stripFrom (encode text) (width front) (width (front ++ code)) =
        stripFrom (encode text) (width front) (width (front ++ code ++ [c])) := by
      by_cases hc : c = '/'
      · subst hc
        have hslash := byte?_mark h (by decide)
        have hslash2 : ¬ byte? (encode text) (width (front ++ code) + 1) = some '/'.toUInt8 := by
          rw [byte?_succ_eq_mark_iff h (by decide) (by decide), List.head?_eq_some_iff]
          rintro ⟨tail, rfl⟩
          exact h1 tail rfl rfl
        have hstar : ¬ byte? (encode text) (width (front ++ code) + 1) = some '*'.toUInt8 := by
          rw [byte?_succ_eq_mark_iff h (by decide) (by decide), List.head?_eq_some_iff]
          rintro ⟨tail, rfl⟩
          exact h2 tail rfl rfl
        rw [stripFrom_of_byte hslash, if_neg (by decide), if_neg (fun hboth => hslash2 hboth.2),
          if_neg (fun hboth => hstar hboth.2), width_singleton (by decide)]
      · have hstep : ∀ i byte, byte? (encode text) i = some byte →
            (isQuoteByte byte = false ∧ byte ≠ '/'.toUInt8) →
            stripFrom (encode text) (width front) i =
              stripFrom (encode text) (width front) (i + 1) := by
          intro i byte hbyte hne
          rw [stripFrom_of_byte hbyte, if_neg (by simp [hne.1]),
            if_neg (fun hboth => hne.2 hboth.1), if_neg (fun hboth => hne.2 hboth.1)]
        exact eq_of_skip_char hstep h (fun byte hb =>
          ⟨isQuoteByte_of_mem hq hb, ne_of_mem_utf8EncodeChar (by decide) hc hb⟩)
    rw [hskip, List.append_assoc, ih, List.append_assoc, List.singleton_append]

theorem cutFrom_of_none {bytes : ByteArray} {copied i : Nat} (h : byte? bytes i = none) :
    cutFrom bytes copied i = (slice? bytes copied bytes.size).map codeFragment := by
  rw [cutFrom]
  split <;> simp_all

theorem cutFrom_step {bytes : ByteArray} {copied : Nat} (i : Nat) (byte : UInt8)
    (h : byte? bytes i = some byte) (hq : isQuoteByte byte = false) :
    cutFrom bytes copied i = cutFrom bytes copied (i + 1) := by
  rw [cutFrom]
  split <;> simp_all

theorem cutFrom_of_quote {bytes : ByteArray} {byte : UInt8} {copied i : Nat} {code : Text}
    (h : byte? bytes i = some byte) (hq : isQuoteByte byte)
    (hslice : slice? bytes copied i = some code) :
    cutFrom bytes copied i = match closingQuote? bytes byte (i + 1) with
      | none => some (codeFragment code)
      | some stop => (cutFrom bytes stop stop).map fun rest =>
          codeFragment code ++ .literal
            (if byte = '"'.toUInt8 then Literal.string else Literal.character) :: rest := by
  rw [cutFrom]
  split
  · simp_all
  · rename_i b hb
    obtain rfl : byte = b := by simpa [h] using hb
    simp only [hq, if_true, hslice, Option.bind_eq_bind, Option.bind_some, Option.pure_def]
    split <;> rename_i hclose <;> rw [hclose]
    simp only [Option.map_eq_bind]
    rfl

/-- A code fragment is what gathering its characters gives, if no more code follows. -/
theorem codeFragment_append {code : Text} {fragments : List Fragment}
    (h : ∀ s rest, fragments ≠ .code s :: rest) :
    codeFragment code ++ fragments = Fragment.consText code fragments := by
  induction code with
  | nil => rfl
  | cons c code ih =>
    rw [Fragment.consText_cons, ← ih]
    cases code with
    | nil =>
      cases fragments with
      | nil => rfl
      | cons f rest =>
        cases f with
        | code s => exact absurd rfl (h s rest)
        | literal kind => rfl
    | cons d code => rfl

/-- No slice of the literal pass is off a boundary, and it gives the fragments of the text. -/
theorem cutFrom_encode {text front code rest : Text} (h : text = front ++ code ++ rest) :
    cutFrom (encode text) (width front) (width (front ++ code)) =
      some (Fragment.consText code (Fragment.cutLiterals rest)) := by
  fun_induction Fragment.cutLiterals rest generalizing front code with
  | case1 =>
    rw [cutFrom_of_none (byte?_eq_none (by simp [h])), size_encode,
      show width text = width (front ++ code) by simp [h], slice?_encode h, Option.map_some,
      ← codeFragment_append (by simp), List.append_nil]
  | case2 c rest hq after hafter ih =>
    have hbyte := byte?_mark h (ascii_of_isQuote hq)
    have hend := closingQuote?_encode hq (show text = front ++ code ++ [c] ++ rest by simp [h])
    have hsplit := throughQuote_append_afterQuote c rest
    rw [afterQuote, hafter, Option.getD_some] at hsplit
    have ih := @ih (front ++ code ++ [c] ++ throughQuote c rest) []
      (by simp [h, hsplit])
    rw [width_singleton (ascii_of_isQuote hq), hafter, Option.map_some] at hend
    rw [List.append_nil] at ih
    rw [cutFrom_of_quote hbyte (isQuoteByte_of_isQuote hq) (slice?_encode h), hend]
    dsimp only
    rw [ih, Option.map_some, codeFragment_append (by simp), literal_of_quote hq]
    rfl
  | case3 c rest hq hafter =>
    have hbyte : byte? (encode text) (width (front ++ code)) = some c.toUInt8 :=
      byte?_mark h (ascii_of_isQuote hq)
    have hend := closingQuote?_encode hq (show text = front ++ code ++ [c] ++ rest by simp [h])
    rw [width_singleton (ascii_of_isQuote hq), hafter, Option.map_none] at hend
    rw [cutFrom_of_quote hbyte (isQuoteByte_of_isQuote hq) (slice?_encode h), hend,
      ← codeFragment_append (by simp), List.append_nil]
  | case4 c rest hq ih =>
    have hq : isQuote c = false := by simpa using hq
    have hskip := eq_of_skip_char (@cutFrom_step (encode text) (width front)) h
      (fun byte hb => isQuoteByte_of_mem hq hb)
    rw [hskip, List.append_assoc, @ih front (code ++ [c]) (by simp [h]), Fragment.consText_append]
    rfl

/-! ## The scans and the reader -/

theorem stripComments?_eq (text : Text) : stripComments? text = some (stripComments text) :=
  stripFrom_encode (show text = [] ++ [] ++ text from rfl)

theorem cutLiterals?_eq (text : Text) :
    cutLiterals? text = some (Fragment.cutLiterals text) :=
  cutFrom_encode (show text = [] ++ [] ++ text from rfl)

/-- The two scans over the bytes of a text give what one reader over its characters gives, and no
slice that they take is off a boundary. -/
theorem fragments?_eq_read (source : Text) : fragments? source = some (Mode.code.read source) := by
  rw [fragments?, stripComments?_eq, Option.bind_eq_bind, Option.bind_some, cutLiterals?_eq,
    cutLiterals_stripComments]

/-- Stripping the comments and then cutting the literals, each with a scan over bytes, gives the
fragments that one reader over the characters sees. Each scan gives a result, so no slice that it
takes is off a boundary. Code fragments are not empty, and no two of them stand side by side. -/
theorem scans_agree_with_reader (source : Text) :
    (∃ stripped, stripComments? source = some stripped ∧
      cutLiterals? stripped = some (Mode.code.read source)) ∧
    (Mode.code.read source).IsChain Fragment.Separated ∧
    ∀ t, .code t ∈ Mode.code.read source → t ≠ [] := by
  refine ⟨⟨stripComments source, stripComments?_eq source, ?_⟩, Mode.isChain_read .code source, ?_⟩
  · rw [cutLiterals?_eq, cutLiterals_stripComments]
  · exact fun t ht => (Mode.plainCode_read .code source t ht).ne_nil

end SourceSimilarity.Canonical.Scan
