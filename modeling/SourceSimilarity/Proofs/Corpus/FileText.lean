import Mathlib
import SourceSimilarity.Corpus.Source

/-!
# The text of a file

A file gives its whole content as text, but for one byte-order mark in front, or the first reason
against it in the order too large, binary, not UTF-8. The look for a NUL reads the front of the file,
and going back to the start brings it back.
-/

namespace SourceSimilarity

namespace Files

/-! ## The leading bytes -/

/-- A NUL stands among the first 512 bytes. -/
def HasNul (content : ByteArray) : Prop :=
  ∃ (i : Nat) (h : i < content.size), i < 512 ∧ content[i] = 0

theorem looksBinary_iff {content : ByteArray} : looksBinary content = true ↔ HasNul content := by
  rw [looksBinary, sniffLength, Array.contains_iff_mem, ByteArray.data_extract,
    Array.mem_extract_iff_getElem]
  constructor
  · rintro ⟨i, hi, hnul⟩
    have hsize : i < content.size := by
      have : content.data.size = content.size := rfl
      omega
    refine ⟨i, hsize, by omega, ?_⟩
    rw [← hnul, ByteArray.getElem_eq_getElem_data]
    simp only [Nat.zero_add]
  · rintro ⟨i, hsize, hi, hnul⟩
    have hdata : i < content.data.size := hsize
    refine ⟨i, by omega, ?_⟩
    rw [← hnul, ByteArray.getElem_eq_getElem_data]
    simp only [Nat.zero_add]

namespace Reader

theorem readToEnd_ofContent (content : ByteArray) : (ofContent content).readToEnd = content :=
  ByteArray.extract_zero_size

/-- Sniffing goes back to the start, wherever the reader stood. -/
theorem sniffBinary_snd (reader : Reader) : reader.sniffBinary.2 = ofContent reader.content :=
  rfl

/-- At the start of a content, sniffing looks at its leading bytes. -/
theorem sniffBinary_ofContent (content : ByteArray) :
    (ofContent content).sniffBinary = (looksBinary content, ofContent content) := by
  have hheader : looksBinary (content.extract 0 sniffLength) = looksBinary content := by
    rw [looksBinary, looksBinary, ByteArray.extract_extract, Nat.zero_add, Nat.zero_add,
      Nat.min_self]
  simp only [sniffBinary, read, rewind, ofContent, Nat.zero_add, hheader]

end Reader

end Files

namespace Corpus

open Files

/-! ## The mark in front -/

/-- The byte-order mark in UTF-8. -/
def markBytes : ByteArray :=
  ⟨#[0xEF, 0xBB, 0xBF]⟩

/-- The content without one mark in front. -/
def withoutMark (content : ByteArray) : ByteArray :=
  if content.extract 0 markBytes.size = markBytes then
    content.extract markBytes.size content.size
  else content

theorem utf8Encode_byteOrderMark : [byteOrderMark].utf8Encode = markBytes := by
  decide

theorem utf8Encode_injective {s t : Text} (h : s.utf8Encode = t.utf8Encode) : s = t := by
  rw [← String.toByteArray_ofList, ← String.toByteArray_ofList, String.toByteArray_inj] at h
  exact String.ofList_injective h

/-- Only the mark begins with the bytes of the mark, since these are read as one character. -/
theorem eq_byteOrderMark_of_extract {c : Char} {rest : Text}
    (h : (c :: rest).utf8Encode.extract 0 markBytes.size = markBytes) : c = byteOrderMark := by
  have hfirst := List.utf8DecodeChar?_utf8Encode_cons (l := rest) (c := c)
  have hsplit := ByteArray.extract_append_extract
    (a := (c :: rest).utf8Encode) (i := 0) (j := markBytes.size) (k := (c :: rest).utf8Encode.size)
  have hsize : markBytes.size ≤ (c :: rest).utf8Encode.size := by
    have hlength := congrArg ByteArray.size h
    rw [ByteArray.size_extract] at hlength
    omega
  rw [h, Nat.zero_min, Nat.max_eq_right hsize, ByteArray.extract_zero_size,
    ← utf8Encode_byteOrderMark] at hsplit
  rw [← hsplit, List.utf8DecodeChar?_utf8Encode_singleton_append] at hfirst
  exact (Option.some.inj hfirst).symm

/-- Dropping the mark of a text drops its bytes. -/
theorem utf8Encode_dropMark (text : Text) :
    (dropMark text).utf8Encode = withoutMark text.utf8Encode := by
  cases text with
  | nil => decide
  | cons c rest =>
    unfold withoutMark
    by_cases hc : c = byteOrderMark
    · subst hc
      rw [dropMark, if_pos rfl, List.utf8Encode_cons, utf8Encode_byteOrderMark,
        ByteArray.extract_append_eq_left rfl, if_pos rfl,
        ByteArray.extract_append_eq_right rfl ByteArray.size_append]
    · rw [dropMark, if_neg hc, if_neg (mt eq_byteOrderMark_of_extract hc)]

/-! ## What loading gives -/

/-- What loading gives for a file with a content: the text that is the content without one mark in
front, or the reason that comes first of those that hold against it. -/
inductive Loads (path : Path) (limit : Nat) (content : ByteArray) : Except LoadError Text → Prop
  | tooLarge (size : limit < content.size) :
    Loads path limit content (.error (.tooLarge path content.size limit))
  | binary (size : content.size ≤ limit) (nul : HasNul content) :
    Loads path limit content (.error (.binary path))
  | invalidUtf8 (size : content.size ≤ limit) (nul : ¬ HasNul content)
    (utf8 : ¬ content.IsValidUTF8) : Loads path limit content (.error (.invalidUtf8 path))
  | text {text : Text} (size : content.size ≤ limit) (nul : ¬ HasNul content)
    (utf8 : content.IsValidUTF8) (encoded : text.utf8Encode = withoutMark content) :
    Loads path limit content (.ok text)

section Loads

variable {path : Path} {limit : Nat} {content : ByteArray} {result result' : Except LoadError Text}

/-- The outcomes exclude each other, and the bytes of a text determine it. -/
theorem Loads.eq (h : Loads path limit content result) (h' : Loads path limit content result') :
    result = result' := by
  cases h with
  | tooLarge size =>
    cases h' with
    | tooLarge => rfl
    | binary size' => omega
    | invalidUtf8 size' => omega
    | text size' => omega
  | binary size nul =>
    cases h' with
    | tooLarge size' => omega
    | binary => rfl
    | invalidUtf8 _ nul' => exact absurd nul nul'
    | text _ nul' => exact absurd nul nul'
  | invalidUtf8 size nul utf8 =>
    cases h' with
    | tooLarge size' => omega
    | binary _ nul' => exact absurd nul' nul
    | invalidUtf8 => rfl
    | text _ _ utf8' => exact absurd utf8' utf8
  | text size nul utf8 encoded =>
    cases h' with
    | tooLarge size' => omega
    | binary _ nul' => exact absurd nul' nul
    | invalidUtf8 _ _ utf8' => exact absurd utf8 utf8'
    | text _ _ _ encoded' => rw [utf8Encode_injective (encoded.trans encoded'.symm)]

theorem loads_decode (size : content.size ≤ limit) :
    Loads path limit content (decode path (.ofContent content)) := by
  rw [decode, Reader.sniffBinary_ofContent]
  dsimp only
  rw [Reader.readToEnd_ofContent, String.fromUTF8?]
  split
  · rename_i hbinary
    exact .binary size (looksBinary_iff.mp hbinary)
  · rename_i hbinary
    have hnul : ¬ HasNul content := mt looksBinary_iff.mpr hbinary
    by_cases hutf8 : content.IsValidUTF8
    · rw [dif_pos hutf8]
      refine .text size hnul hutf8 ?_
      rw [utf8Encode_dropMark, String.utf8Encode_toList]
      rfl
    · rw [dif_neg hutf8]
      exact .invalidUtf8 size hnul hutf8

theorem loads_loadContent : Loads path limit content (loadContent path limit content) := by
  unfold loadContent
  split
  · rename_i hsize
    exact .tooLarge hsize
  · rename_i hsize
    exact loads_decode (Nat.le_of_not_lt hsize)

end Loads

/-- A path that leads to a file loads as the content of that file says, and in no other way. The look
for a NUL takes nothing away from what is read after it. -/
theorem load_eq_iff_loads {fs : FileSystem} {path : Path} {content : ByteArray}
    (hfile : fs.lookup path = .ok (.file content)) (limit : Nat) :
    (∀ result, (Source.file path).load fs limit = result ↔ Loads path limit content result) ∧
      ∀ reader : Reader, reader.content = content → reader.sniffBinary.2.readToEnd = content := by
  constructor
  · intro result
    have hload : (Source.file path).load fs limit = loadContent path limit content := by
      rw [Source.load, loadFile, hfile]
    rw [hload]
    constructor
    · rintro rfl
      exact loads_loadContent
    · exact loads_loadContent.eq
  · rintro reader rfl
    rw [Reader.sniffBinary_snd, Reader.readToEnd_ofContent]

/-- A file that starts with two marks, and one that is binary as well as malformed. -/
def marksAndMalformed : FileSystem :=
  ⟨.directory [("a", .file ⟨#[0xEF, 0xBB, 0xBF, 0xEF, 0xBB, 0xBF, 0x41]⟩),
    ("b", .file ⟨#[0xFF, 0]⟩)], []⟩

/-- One of two marks goes, at a size that the limit just allows; and being binary is said before
being malformed, unless the file is too large. -/
theorem load_eq_iff_loads_marks :
    marksAndMalformed.lookup "a" = .ok (.file ⟨#[0xEF, 0xBB, 0xBF, 0xEF, 0xBB, 0xBF, 0x41]⟩) ∧
      (Source.file "a").load marksAndMalformed 7 = .ok [byteOrderMark, 'A'] ∧
      marksAndMalformed.lookup "b" = .ok (.file ⟨#[0xFF, 0]⟩) ∧
      (Source.file "b").load marksAndMalformed 2 = .error (.binary "b") ∧
      (Source.file "b").load marksAndMalformed 1 = .error (.tooLarge "b" 2 1) := by
  have hmarks : marksAndMalformed.lookup "a" =
      .ok (.file ⟨#[0xEF, 0xBB, 0xBF, 0xEF, 0xBB, 0xBF, 0x41]⟩) := by cbv
  have hmalformed : marksAndMalformed.lookup "b" = .ok (.file ⟨#[0xFF, 0]⟩) := by cbv
  refine ⟨hmarks, ((load_eq_iff_loads hmarks 7).1 _).mpr (.text ?_ ?_ ?_ ?_), hmalformed,
    ((load_eq_iff_loads hmalformed 2).1 _).mpr (.binary ?_ ?_),
    ((load_eq_iff_loads hmalformed 1).1 _).mpr (.tooLarge ?_)⟩
  · decide
  · rw [← looksBinary_iff]
    decide +kernel
  · exact ⟨[byteOrderMark, byteOrderMark, 'A'], by decide⟩
  · decide
  · decide
  · exact ⟨1, by decide, by decide, rfl⟩
  · decide

end Corpus

end SourceSimilarity
