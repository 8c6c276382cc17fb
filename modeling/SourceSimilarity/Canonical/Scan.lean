import SourceSimilarity.Canonical.Fragment

/-!
# Scanning the encoded text

Comments are stripped and literals cut on the bytes of a text in UTF-8. Every mark that the scans
look for is one ASCII byte, and no byte of a longer character is ASCII. What lies between two marks
is cut out of the text by its offsets, which fails if one of them is inside a character.
-/

namespace SourceSimilarity.Canonical.Scan

/-- The bytes of a text. -/
def encode (text : Text) : ByteArray :=
  (String.ofList text).toByteArray

/-- The byte at an offset. -/
def byte? (bytes : ByteArray) (offset : Nat) : Option UInt8 :=
  if h : offset < bytes.size then some bytes[offset] else none

theorem lt_size_of_byte? {bytes : ByteArray} {offset : Nat} {byte : UInt8}
    (h : byte? bytes offset = some byte) : offset < bytes.size := by
  unfold byte? at h
  split at h
  · assumption
  · cases h

/-- The offset is at an end of the text or between two characters. The bytes from `0x80` to `0xBF`
only go on with a character. -/
def isBoundary (bytes : ByteArray) (offset : Nat) : Bool :=
  offset == 0 || offset == bytes.size ||
    match byte? bytes offset with
    | some byte => byte < 0x80 || 0xC0 ≤ byte
    | none => false

/-- The text between two offsets, if both are boundaries. -/
def slice? (bytes : ByteArray) (start stop : Nat) : Option Text :=
  if start ≤ stop && isBoundary bytes start && isBoundary bytes stop then
    (bytes.extract start stop).utf8Decode?.map Array.toList
  else none

/-! ## Ends of literals and comments -/

/-- Both quotes open a literal. -/
def isQuoteByte (byte : UInt8) : Bool :=
  byte == '"'.toUInt8 || byte == '\''.toUInt8

/-- The offset behind the quote that closes a literal, looking from `offset` on. A backslash takes
the next byte with it, even if that is not a whole character. -/
def closingQuote? (bytes : ByteArray) (quote : UInt8) (offset : Nat) : Option Nat :=
  match _h : byte? bytes offset with
  | none => none
  | some byte =>
    if byte = '\\'.toUInt8 then closingQuote? bytes quote (offset + 2)
    else if byte = quote then some (offset + 1)
    else closingQuote? bytes quote (offset + 1)
termination_by bytes.size - offset
decreasing_by
  · have := lt_size_of_byte? _h
    omega
  · have := lt_size_of_byte? _h
    omega

/-- The offset of the next newline, or the end of the text. -/
def lineEnd (bytes : ByteArray) (offset : Nat) : Nat :=
  match _h : byte? bytes offset with
  | none => bytes.size
  | some byte => if byte = '\n'.toUInt8 then offset else lineEnd bytes (offset + 1)
termination_by bytes.size - offset
decreasing_by
  have := lt_size_of_byte? _h
  omega

/-- The offset behind the next end mark of a block comment. -/
def blockEnd? (bytes : ByteArray) (offset : Nat) : Option Nat :=
  match _h : byte? bytes offset with
  | none => none
  | some byte =>
    if byte = '*'.toUInt8 ∧ byte? bytes (offset + 1) = some '/'.toUInt8 then some (offset + 2)
    else blockEnd? bytes (offset + 1)
termination_by bytes.size - offset
decreasing_by
  have := lt_size_of_byte? _h
  omega

/-! ## The scans get on -/

theorem lt_closingQuote {bytes : ByteArray} {quote : UInt8} {offset stop : Nat}
    (h : closingQuote? bytes quote offset = some stop) : offset < stop := by
  fun_induction closingQuote? bytes quote offset with
  | case1 => cases h
  | case2 offset hbyte ih =>
    have := ih h
    omega
  | case3 offset hbyte hslash =>
    cases h
    omega
  | case4 offset byte hbyte hslash hquote ih =>
    have := ih h
    omega

theorem le_lineEnd {bytes : ByteArray} {offset : Nat} (h : offset ≤ bytes.size) :
    offset ≤ lineEnd bytes offset := by
  fun_induction lineEnd bytes offset with
  | case1 => exact h
  | case2 => exact Nat.le_refl _
  | case3 offset byte hbyte _ ih =>
    have := ih (lt_size_of_byte? hbyte)
    omega

theorem lt_blockEnd {bytes : ByteArray} {offset stop : Nat}
    (h : blockEnd? bytes offset = some stop) : offset < stop := by
  fun_induction blockEnd? bytes offset with
  | case1 => cases h
  | case2 =>
    cases h
    omega
  | case3 offset byte hbyte _ ih =>
    have := ih h
    omega

/-! ## The two passes -/

/-- The text from `copied` on without its comments, scanned from `offset` on. What lies between the
two offsets is code and literals that are still to be copied. -/
def stripFrom (bytes : ByteArray) (copied offset : Nat) : Option Text :=
  match _h : byte? bytes offset with
  | none => slice? bytes copied bytes.size
  | some byte =>
    if isQuoteByte byte then
      stripFrom bytes copied ((closingQuote? bytes byte (offset + 1)).getD bytes.size)
    else if _hl : byte = '/'.toUInt8 ∧ byte? bytes (offset + 1) = some '/'.toUInt8 then do
      let code ← slice? bytes copied offset
      let stop := lineEnd bytes (offset + 2)
      return code ++ (← stripFrom bytes stop stop)
    else if byte = '/'.toUInt8 ∧ byte? bytes (offset + 1) = some '*'.toUInt8 then do
      let code ← slice? bytes copied offset
      let stop := (blockEnd? bytes (offset + 2)).getD bytes.size
      return code ++ ' ' :: (← stripFrom bytes stop stop)
    else stripFrom bytes copied (offset + 1)
termination_by bytes.size - offset
decreasing_by
  · have := lt_size_of_byte? _h
    cases hq : closingQuote? bytes byte (offset + 1) with
    | none => rw [Option.getD_none]; omega
    | some stop => have := lt_closingQuote hq; rw [Option.getD_some]; omega
  · have := lt_size_of_byte? _h
    have : offset + 2 ≤ lineEnd bytes (offset + 2) := le_lineEnd (lt_size_of_byte? _hl.2)
    omega
  · have := lt_size_of_byte? _h
    cases hb : blockEnd? bytes (offset + 2) with
    | none => rw [Option.getD_none]; omega
    | some stop => have := lt_blockEnd hb; rw [Option.getD_some]; omega
  · have := lt_size_of_byte? _h
    omega

/-- A code fragment, unless there is no code. -/
def codeFragment (code : Text) : List Fragment :=
  if code.isEmpty then [] else [.code code]

/-- The fragments from `copied` on of a text that has no comments, scanned from `offset` on. What
lies between the two offsets is code. -/
def cutFrom (bytes : ByteArray) (copied offset : Nat) : Option (List Fragment) :=
  match _h : byte? bytes offset with
  | none => (slice? bytes copied bytes.size).map codeFragment
  | some byte =>
    if isQuoteByte byte then do
      let code ← slice? bytes copied offset
      match _hq : closingQuote? bytes byte (offset + 1) with
      | none => return codeFragment code
      | some stop =>
        let kind := if byte = '"'.toUInt8 then Literal.string else Literal.character
        return codeFragment code ++ .literal kind :: (← cutFrom bytes stop stop)
    else cutFrom bytes copied (offset + 1)
termination_by bytes.size - offset
decreasing_by
  · have := lt_size_of_byte? _h
    have := lt_closingQuote _hq
    omega
  · have := lt_size_of_byte? _h
    omega

/-- The text without its comments. -/
def stripComments? (text : Text) : Option Text :=
  stripFrom (encode text) 0 0

/-- The fragments of a text that has no comments. -/
def cutLiterals? (text : Text) : Option (List Fragment) :=
  cutFrom (encode text) 0 0

/-- Code and quoted literals of a source text, its comments gone. -/
def fragments? (source : Text) : Option (List Fragment) := do
  cutLiterals? (← stripComments? source)

end SourceSimilarity.Canonical.Scan
