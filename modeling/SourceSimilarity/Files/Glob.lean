/-!
# Glob patterns

Patterns of paths: `?` for one byte, `*` for any number, `[...]` for a byte of a class,
`{...}` for one of several patterns, and `**` between separators for any number of
directories. Paths are matched byte by byte, and a pattern has to match a whole path.
-/

namespace SourceSimilarity.Files

/-- An element of a pattern. -/
inductive Wildcard where
  | literal (c : Char)
  | one
  | many
  /-- A `**` in front: nothing, or directories with the separator behind them. -/
  | leadingDirectories
  /-- A `**` at the end: whatever lies inside. -/
  | everythingInside
  /-- A `**` inside: a separator, with directories or without. -/
  | innerDirectories
  | oneOf (negated : Bool) (ranges : List (Char × Char))
  | alternatives (branches : List (List Wildcard))

/-- What is wrong with a pattern. -/
inductive GlobFault where
  | unclosedClass
  | invalidRange (first last : Char)
  | unopenedGroup
  | unclosedGroup
  | danglingEscape
deriving DecidableEq, Repr

namespace GlobFault

/-- What is said of a fault, whatever the pattern. -/
def message : GlobFault → String
  | unclosedClass => "unclosed character class; missing ']'"
  | invalidRange first last =>
    "invalid range; '" ++ first.toString ++ "' > '" ++ last.toString ++ "'"
  | unopenedGroup =>
    "unopened alternate group; missing '\x7b' (maybe escape '\x7d' with '[\x7d]'?)"
  | unclosedGroup =>
    "unclosed alternate group; missing '\x7d' (maybe escape '\x7b' with '[\x7b]'?)"
  | danglingEscape => "dangling '\\'"

end GlobFault

/-- A pattern that cannot be used. -/
structure GlobError where
  pattern : String
  fault : GlobFault
deriving DecidableEq, Repr

namespace GlobError

/-- What is said of a pattern. -/
def message (e : GlobError) : String :=
  "error parsing glob '" ++ e.pattern ++ "': " ++ e.fault.message

end GlobError

namespace Glob

/-! ## Reading -/

/-- What has been read of a pattern: the open branches, innermost first and each newest element
first, and for each open group how many branches lie outside it. -/
structure Progress where
  branches : List (List Wildcard)
  groups : List Nat

namespace Progress

/-- Nothing read yet. -/
def start : Progress :=
  ⟨[[]], []⟩

/-- Add an element to the innermost branch. -/
def push (p : Progress) (w : Wildcard) : Progress :=
  match p.branches with
  | branch :: outer => { p with branches := (w :: branch) :: outer }
  | [] => { p with branches := [[w]] }

/-- Replace the newest element of the innermost branch. -/
def replace (p : Progress) (f : Option Wildcard → Wildcard) : Progress :=
  match p.branches with
  | (w :: branch) :: outer => { p with branches := (f (some w) :: branch) :: outer }
  | [] :: outer => { p with branches := [f none] :: outer }
  | [] => { p with branches := [[f none]] }

/-- The innermost branch is still empty. -/
def isFresh (p : Progress) : Bool :=
  match p.branches with
  | [] :: _ => true
  | [] => true
  | _ => false

/-- Some group is open. -/
def inBranch (p : Progress) : Bool :=
  1 < p.branches.length

/-- Open a group with its first branch. -/
def openGroup (p : Progress) : Progress :=
  ⟨[] :: p.branches, p.branches.length :: p.groups⟩

/-- Begin another branch, or read a plain comma where no group is open. -/
def comma (p : Progress) : Progress :=
  if p.groups.isEmpty then p.push (.literal ',') else { p with branches := [] :: p.branches }

/-- Close the innermost group. -/
def closeGroup (p : Progress) : Except GlobFault Progress :=
  match p.groups with
  | [] => .error .unopenedGroup
  | outside :: groups =>
    let inner := p.branches.length - outside
    let branches := (p.branches.take inner).reverse.map List.reverse
    .ok (push ⟨p.branches.drop inner, groups⟩ (.alternatives branches))

/-- The elements of the pattern, if every group is closed. -/
def finish (p : Progress) : Except GlobFault (List Wildcard) :=
  match p.branches with
  | [branch] => .ok branch.reverse
  | _ => .error .unclosedGroup

end Progress

/-- Extend the newest range of a class to `c`. -/
def extendRange (c : Char) : List (Char × Char) → Except GlobFault (List (Char × Char))
  | (first, _) :: ranges =>
    if c < first then .error (.invalidRange first c) else .ok ((first, c) :: ranges)
  | [] => .ok [(c, c)]

/-- Read a class up to its bracket: its ranges, newest first, and what follows. `first` says that
nothing was read of it yet, and `inRange` that a dash is waiting for the end of a range. -/
def readClass (first inRange : Bool) (ranges : List (Char × Char)) :
    List Char → Except GlobFault (List (Char × Char) × List Char)
  | [] => .error .unclosedClass
  | c :: rest =>
    if c = ']' ∧ !first then .ok (if inRange then ('-', '-') :: ranges else ranges, rest)
    else if c = '-' ∧ !first ∧ !inRange then readClass false true ranges rest
    else if inRange then
      match extendRange c ranges with
      | .ok ranges => readClass false false ranges rest
      | .error fault => .error fault
    else readClass false false ((c, c) :: ranges) rest

/-- A class behind its opening bracket. -/
def classAt (text : List Char) : Except GlobFault (Wildcard × List Char) :=
  let (negated, body) := match text with
    | '!' :: rest => (true, rest)
    | '^' :: rest => (true, rest)
    | _ => (false, text)
  match readClass true false [] body with
  | .ok (ranges, rest) => .ok (.oneOf negated ranges.reverse, rest)
  | .error fault => .error fault

/-- What two stars behind other elements stand for, if they stand between separators: whatever lies
inside, or directories. Stars that follow such stars say nothing new. -/
def mergeStars (atEnd : Bool) : Option Wildcard → Wildcard
  | some .leadingDirectories => .leadingDirectories
  | some .everythingInside => .everythingInside
  | _ => if atEnd then .everythingInside else .innerDirectories

/-- Two stars behind the character `prev`, with `rest` behind them: the progress, the character read
last, and what is left. -/
def twoStars (p : Progress) (prev : Option Char) (rest : List Char) :
    Progress × Option Char × List Char :=
  let plain := ((p.push .many).push .many, some '*', rest)
  if p.isFresh then
    match rest with
    | [] => (p.push .leadingDirectories, some '*', [])
    | '/' :: more => (p.push .leadingDirectories, some '/', more)
    | _ => plain
  else if prev ≠ some '/' ∧ (!p.inBranch ∨ (prev ≠ some ',' ∧ prev ≠ some '\x7b')) then plain
  else
    match rest with
    | [] => (p.replace (mergeStars true), some '*', [])
    | '/' :: more => (p.replace (mergeStars false), some '/', more)
    | c :: _ =>
      if p.inBranch ∧ (c = ',' ∨ c = '\x7d') then (p.replace (mergeStars true), some '*', rest)
      else plain

/-- What an opening bracket means. -/
inductive Brackets where
  /-- It opens a class, which has to be closed. -/
  | strict
  /-- It opens a class if that is closed. One that is not makes all brackets literal. -/
  | lenient
  /-- It stands for itself. -/
  | literal
deriving DecidableEq, Repr

/-- Read a pattern, `fuel` elements of it at most. -/
def readFrom (brackets : Brackets) : Nat → Progress → Option Char → List Char →
    Except GlobFault (List Wildcard)
  | _, p, _, [] => p.finish
  | 0, p, _, _ => p.finish
  | fuel + 1, p, prev, c :: rest =>
    if c = '?' then readFrom brackets fuel (p.push .one) (some c) rest
    else if c = '*' then
      match rest with
      | '*' :: rest =>
        let (p, prev, rest) := twoStars p prev rest
        readFrom brackets fuel p prev rest
      | _ => readFrom brackets fuel (p.push .many) (some c) rest
    else if c = '[' ∧ brackets ≠ .literal then
      match classAt rest with
      | .ok (wildcard, rest) => readFrom brackets fuel (p.push wildcard) (some ']') rest
      | .error fault =>
        if brackets = .lenient ∧ fault = .unclosedClass then
          readFrom .literal fuel (p.push (.literal '[')) (some c) rest
        else .error fault
    else if c = '\x7b' then readFrom brackets fuel p.openGroup (some c) rest
    else if c = '\x7d' then
      match p.closeGroup with
      | .ok p => readFrom brackets fuel p (some c) rest
      | .error fault => .error fault
    else if c = ',' then readFrom brackets fuel p.comma (some c) rest
    else if c = '\\' then
      match rest with
      | [] => .error .danglingEscape
      | d :: rest => readFrom brackets fuel (p.push (.literal d)) (some d) rest
    else readFrom brackets fuel (p.push (.literal c)) (some c) rest

end Glob

/-- A pattern, and whether its wildcards go across separators. -/
structure Glob where
  elements : List Wildcard
  crossing : Bool

namespace Glob

/-- Read a pattern. -/
def read (brackets : Brackets) (crossing : Bool) (pattern : String) : Except GlobError Glob :=
  match readFrom brackets (pattern.length + 1) .start none pattern.toList with
  | .ok elements => .ok ⟨elements, crossing⟩
  | .error fault => .error ⟨pattern, fault⟩

/-! ## Matching -/

/-- The byte between the names of a path. -/
def separator : UInt8 :=
  47

/-- The bytes that a class stands for. A character of several bytes stands for each of them; a range
between two such characters runs from the last byte of one to the first byte of the other. -/
def byteRanges (range : Char × Char) : List (UInt8 × UInt8) :=
  let first := String.utf8EncodeChar range.1
  let last := String.utf8EncodeChar range.2
  let single := fun b : UInt8 => (b, b)
  if range.1 = range.2 then first.map single
  else
    first.dropLast.map single
      ++ [(first.getLast?.getD 0, last.head?.getD 0)]
      ++ (last.drop 1).map single

/-- A byte of a class. -/
def inClass (ranges : List (Char × Char)) (b : UInt8) : Bool :=
  (ranges.flatMap byteRanges).any fun r => r.1 ≤ b && b ≤ r.2

/-- The text without `front`, if it starts with that. -/
def without? (front text : List UInt8) : Option (List UInt8) :=
  if front.isPrefixOf text then some (text.drop front.length) else none

/-- All that may be left after any number of bytes that `allowed` holds of. -/
def afterMany (allowed : UInt8 → Bool) : List UInt8 → List (List UInt8)
  | [] => [[]]
  | b :: rest => (b :: rest) :: (if allowed b then afterMany allowed rest else [])

/-- What may be left after directories: whatever stands behind a separator. -/
def afterDirectories : List UInt8 → List (List UInt8)
  | [] => []
  | b :: rest => if b = separator then rest :: afterDirectories rest else afterDirectories rest

mutual

/-- Matches nothing but the empty text, because nothing is in it. -/
def isVoid : Wildcard → Bool
  | .alternatives branches => areVoid branches
  | _ => false

/-- All elements of a branch match nothing but the empty text in that way. -/
def isVoidBranch : List Wildcard → Bool
  | [] => true
  | w :: rest => isVoid w && isVoidBranch rest

/-- All branches of a group do. -/
def areVoid : List (List Wildcard) → Bool
  | [] => true
  | branch :: rest => isVoidBranch branch && areVoid rest

end

mutual

/-- All that may be left of a text after what one element matches in front. -/
def remainders (crossing : Bool) (w : Wildcard) (text : List UInt8) : List (List UInt8) :=
  match w with
  | .literal c => (without? (String.utf8EncodeChar c) text).toList
  | .one =>
    match text with
    | b :: rest => if crossing || b != separator then [rest] else []
    | [] => []
  | .many => afterMany (fun b => crossing || b != separator) text
  | .leadingDirectories => text :: afterDirectories text
  | .everythingInside =>
    match text with
    | b :: rest => if b = separator then afterMany (fun _ => true) rest else []
    | [] => []
  | .innerDirectories =>
    match text with
    | b :: rest => if b = separator then rest :: afterDirectories rest else []
    | [] => []
  | .oneOf negated ranges =>
    match text with
    | b :: rest => if inClass ranges b != negated then [rest] else []
    | [] => []
  | .alternatives branches =>
    if areVoid branches then [text] else remaindersOfAny crossing branches text

/-- All that may be left of one of `texts` after elements one behind the other. -/
def remaindersOfAll (crossing : Bool) (ws : List Wildcard) (texts : List (List UInt8)) :
    List (List UInt8) :=
  match ws with
  | [] => texts
  | w :: rest =>
    remaindersOfAll crossing rest
      (texts.flatMap fun text => remainders crossing w text).eraseDups

/-- All that may be left after one of several branches. A branch with nothing in it does not count.
-/
def remaindersOfAny (crossing : Bool) (branches : List (List Wildcard)) (text : List UInt8) :
    List (List UInt8) :=
  match branches with
  | [] => []
  | branch :: rest =>
    (if isVoidBranch branch then [] else remaindersOfAll crossing branch [text])
      ++ remaindersOfAny crossing rest text

end

/-- The pattern matches the whole path. Two stars alone match everything. -/
def isMatch (glob : Glob) (path : String) : Bool :=
  match glob.elements with
  | [.leadingDirectories] => true
  | elements => (remaindersOfAll glob.crossing elements [path.toUTF8.toList]).any List.isEmpty

end Glob

end SourceSimilarity.Files
