import SourceSimilarity.Text.Basic
import SourceSimilarity.Text.ColumnTable

/-!
# Columns

The width of a text on a terminal. Most characters count for themselves; an emoji spelled with
several characters counts as one, and so do the ligatures of some scripts.
-/

namespace SourceSimilarity.Text

/-- The width of a character on its own. Control characters count one column. -/
def charColumns (c : Char) : Nat :=
  if isAscii c then 1
  else if c = '\u17d8' then 3
  else if inRanges zeroRanges c then 0
  else if inRanges wideRanges c then 2
  else 1

/-! ## Emoji -/

/-- Joins two emoji into one. -/
def joiner : Char :=
  '\u200d'

/-- Asks for the character before it to be drawn as an emoji. -/
def emojiSelector : Char :=
  '\ufe0f'

/-- Asks for the character before it to be drawn as text. -/
def textSelector : Char :=
  '\ufe0e'

/-- One of the five skin tones. -/
def isSkinTone (c : Char) : Bool :=
  inRanges [(0x1F3FB, 0x1F3FF)] c

/-- A letter of a flag: two of them make one. -/
def isFlagLetter (c : Char) : Bool :=
  inRanges [(0x1F1E6, 0x1F1FF)] c

/-- The characters of one emoji at the front of a text, joined ones aside, and what follows it. -/
def afterEmoji? : Text → Option Text
  | a :: b :: rest =>
    if isFlagLetter a && isFlagLetter b then some rest
    else if inRanges modifierBaseRanges a && isSkinTone b then some rest
    else if b == emojiSelector && (inRanges emojiOnRequestRanges a || inRanges emojiRanges a) then
      some rest
    else if inRanges emojiRanges a then some (b :: rest)
    else none
  | [a] => if inRanges emojiRanges a then some [] else none
  | [] => none

theorem length_afterEmoji?_lt {text rest : Text} (h : afterEmoji? text = some rest) :
    rest.length < text.length := by
  unfold afterEmoji? at h
  split at h
  · repeat' split at h
    all_goals first
      | (obtain rfl := Option.some.inj h; simp only [List.length_cons]; omega)
      | simp at h
  · split at h
    · obtain rfl := Option.some.inj h; simp
    · simp at h
  · simp at h

/-- What follows an emoji and all that are joined to it. -/
def afterJoined (text : Text) : Text :=
  match text with
  | [] => []
  | c :: rest =>
    if c = joiner then
      match _h : afterEmoji? rest with
      | some after => afterJoined after
      | none => c :: rest
    else c :: rest
termination_by text.length
decreasing_by have := length_afterEmoji?_lt _h; simp only [List.length_cons]; omega

/-! ## Ligatures -/

/-- Characters that are drawn together, each from its own ranges, and the columns they take. -/
structure Ligature where
  members : List (List (Nat × Nat))
  columns : Nat

/-- The ligatures of Hebrew, Buginese, Old Turkic, Lisu, Tifinagh, Kirat Rai, Khmer and Arabic. -/
def ligatures : List Ligature :=
  let tifinagh := [(0x2D31, 0x2D65), (0x2D6F, 0x2D6F)]
  [⟨[[(0x5D0, 0x5D0)], [(0x200D, 0x200D)], [(0x5DC, 0x5DC)]], 1⟩,
   ⟨[[(0x1A15, 0x1A15)], [(0x1A17, 0x1A17)], [(0x200D, 0x200D)], [(0x1A10, 0x1A10)]], 1⟩,
   ⟨[[(0x10C32, 0x10C32)], [(0x200D, 0x200D)], [(0x10C03, 0x10C03)]], 1⟩,
   ⟨[[(0xA4F8, 0xA4FB)], [(0xA4FC, 0xA4FD)]], 1⟩,
   ⟨[tifinagh, [(0x2D7F, 0x2D7F), (0x200D, 0x200D)], tifinagh], 1⟩,
   ⟨[[(0x16D63, 0x16D63)], [(0x16D67, 0x16D67)], [(0x16D67, 0x16D67)]], 1⟩,
   ⟨[[(0x16D63, 0x16D63), (0x16D67, 0x16D67), (0x16D69, 0x16D69)], [(0x16D67, 0x16D67)]], 1⟩,
   ⟨[[(0x17D2, 0x17D2)],
     [(0x1780, 0x1782), (0x1784, 0x1787), (0x1789, 0x178C), (0x178E, 0x1793), (0x1795, 0x1798),
      (0x179B, 0x179D), (0x17A0, 0x17A0), (0x17A2, 0x17A2), (0x17A7, 0x17A7), (0x17AB, 0x17AC),
      (0x17AF, 0x17AF)]], 0⟩,
   ⟨[[(0x644, 0x644), (0x6B5, 0x6B8), (0x76A, 0x76A), (0x8A6, 0x8A6), (0x8C7, 0x8C7)],
     [(0x622, 0x623), (0x625, 0x625), (0x627, 0x627), (0x671, 0x673), (0x675, 0x675),
      (0x773, 0x774)]], 1⟩]

/-- What follows the members of a ligature. Characters without columns may stand between them. -/
def afterMembers? : List (List (Nat × Nat)) → Text → Option Text
  | [], text => some text
  | _ :: _, [] => none
  | member :: members, c :: rest =>
    if inRanges member c then afterMembers? members rest
    else if charColumns c = 0 then afterMembers? (member :: members) rest
    else none

/-- The columns of the ligature at the front of a text and what follows it. -/
def ligatureAt? (text : Text) : Option (Nat × Text) :=
  ligatures.findSome? fun ligature =>
    match ligature.members, text with
    | member :: members, c :: rest =>
      if inRanges member c then
        (afterMembers? members rest).map fun after => (ligature.columns, after)
      else none
    | _, _ => none

/-! ## Texts -/

/-- An emoji that the text selector makes narrow. -/
def isNarrowedEmoji (c : Char) : Bool :=
  inRanges emojiRanges c && !inRanges [(0x1F200, 0x1F2FF)] c

/-- The columns of what stands at the front of a text, and what follows it. -/
def firstColumns (c : Char) (rest : Text) : Nat × Text :=
  if isAscii c ∧ rest.head? ≠ some emojiSelector then
    if c = '\r' ∧ rest.head? = some '\n' then (1, rest.drop 1) else (1, rest)
  else if isNarrowedEmoji c ∧ rest.head? = some textSelector then (1, rest.drop 1)
  else match afterEmoji? (c :: rest) with
    | some after => (2, afterJoined after)
    | none =>
      match ligatureAt? (c :: rest) with
      | some found => found
      | none => (charColumns c, rest)

/-- Add up the columns of a text, `fuel` characters or sequences of it. -/
def columnsWithin : Nat → Text → Nat
  | 0, _ => 0
  | _, [] => 0
  | fuel + 1, c :: rest =>
    let (here, after) := firstColumns c rest
    here + columnsWithin fuel after

/-- The width of a text on a terminal. Every step takes at least one character. -/
def columns (text : Text) : Nat :=
  columnsWithin text.length text

end SourceSimilarity.Text
