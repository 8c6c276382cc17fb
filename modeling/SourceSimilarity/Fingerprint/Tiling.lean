import SourceSimilarity.Fingerprint.Segment

/-!
# Tiling

Segments that share no character on either side, found in one walk over the right text. At each
window the longest stretch of left text that is still free is taken. In repetitive texts the full
list of matches grows with the product of the lengths; a tiling does not.
-/

namespace SourceSimilarity.Fingerprint

/-- How many places of the left text are tried for a window of the right text. -/
def maxCandidates : Nat :=
  64

/-- How many segments a tiling keeps. -/
def maxSegments : Nat :=
  256

namespace Tiling

/-- The left text, and which of its characters belong to a segment already. -/
structure Board where
  text : Array Char
  covered : Array Bool

namespace Board

/-- A text with all its characters free. -/
def ofText (text : Text) : Board :=
  ⟨text.toArray, Array.replicate text.length false⟩

/-- The character at `offset`, if it is free. -/
def free? (board : Board) (offset : Nat) : Option Char :=
  if board.covered[offset]? = some false then board.text[offset]? else none

/-- Cover `length` characters from `offset` on. -/
def cover (board : Board) (offset length : Nat) : Board :=
  { board with
    covered := (List.range length).foldl (fun covered i => covered.setIfInBounds (offset + i) true)
      board.covered }

/-- The length of the free stretch at `offset` that reads like the front of a text. -/
def commonRun (board : Board) (offset : Nat) : Text → Nat
  | [] => 0
  | c :: rest => if board.free? offset = some c then board.commonRun (offset + 1) rest + 1 else 0

/-- The first `limit` offsets that are free. -/
def takeFree (board : Board) : Nat → List Nat → List Nat
  | 0, _ => []
  | _, [] => []
  | limit + 1, offset :: rest =>
    if board.covered[offset]? = some false then offset :: board.takeFree limit rest
    else board.takeFree (limit + 1) rest

end Board

/-- The longer of two runs, each with its offset; the earlier one if they are equally long. -/
def longer (best : Nat × Nat) (run : Nat × Nat) : Nat × Nat :=
  if best.1 < run.1 then run else best

/-- The longest run at one of `offsets`, if one reaches `width` characters, with its offset. -/
def bestRun (board : Board) (width : Nat) (offsets : List Nat) (right : Text) :
    Option (Nat × Nat) :=
  let runs := (board.takeFree maxCandidates offsets).map fun offset =>
    (board.commonRun offset right, offset)
  match runs.filter fun run => width ≤ run.1 with
  | [] => none
  | run :: rest => some (rest.foldl longer run)

/-- Walk over the right text from `offset` on, of which `hashes` are the windows. The first `skip`
windows begin inside the segment found last. -/
def walk (index : OffsetIndex) (width : Nat) (board : Board) (skip offset : Nat) :
    List UInt64 → Text → List Segment
  | hash :: hashes, c :: rest =>
    match skip with
    | skip + 1 => walk index width board skip (offset + 1) hashes rest
    | 0 =>
      match bestRun board width (index.offsets hash) (c :: rest) with
      | some (length, left) =>
        ⟨left, offset, length⟩ ::
          walk index width (board.cover left length) (length - 1) (offset + 1) hashes rest
      | none => walk index width board 0 (offset + 1) hashes rest
  | _, _ => []

/-- The tiling of two texts before it is cut down, in the order of the right text. -/
def greedy (left right : Text) (width : Nat) : List Segment :=
  walk (.ofHashes (hashes left width)) width (.ofText left) 0 0 (hashes right width) right

/-- The longest segments of a tiling, as many as are kept. -/
def longest (segments : List Segment) : List Segment :=
  if maxSegments < segments.length then
    (segments.mergeSort Segment.outranks).take maxSegments
  else segments

end Tiling

/-- The segments that two texts share, each at least `width` characters long and none overlapping
another on either side, ascending. The width is cut down to the shorter text. -/
def tile (left right : Text) (width : Nat) : List Segment :=
  if width = 0 ∨ left.isEmpty ∨ right.isEmpty then []
  else
    (Tiling.longest (Tiling.greedy left right (clampWidth width left right))).mergeSort
      Segment.precedes

/-! ## Covered characters -/

/-- Count the characters covered by spans `(start, stop)` that are sorted by start, of which all
below `reach` are counted already. -/
def countCovered (reach : Nat) : List (Nat × Nat) → Nat
  | [] => 0
  | (start, stop) :: rest => (stop - max start reach) + countCovered (max reach stop) rest

/-- How many characters of the left text lie in a segment. -/
def coveredLength (segments : List Segment) : Nat :=
  let spans := segments.map fun s => (s.left, s.left + s.length)
  countCovered 0 (spans.mergeSort fun a b => a.1 < b.1 || (a.1 == b.1 && a.2 ≤ b.2))

end SourceSimilarity.Fingerprint
