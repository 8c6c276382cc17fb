import SourceSimilarity.Text.Blank
import SourceSimilarity.Files.FileSystem
import SourceSimilarity.Files.Glob

/-!
# Ignore rules

Files that say which entries of a directory tree do not count. `.ignore` counts everywhere;
`.gitignore` and the exclude file of a repository count inside a repository only. The rules of a
directory override those of the directories around it, and of the rules in one file the last one
that matches decides. A line that cannot be used gives no rule; it is a fault of its file.
-/

namespace SourceSimilarity.Files

/-- A line of an ignore file. -/
structure IgnoreRule where
  glob : Glob
  /-- The rule brings entries back that others leave out. -/
  keeps : Bool
  directoriesOnly : Bool

namespace IgnoreRule

/-- A line without the blanks at its end, unless the last of them is escaped. -/
def trimLine (line : Text) : Text :=
  if ['\\', ' '].isSuffixOf line then line else Text.dropTrailing Text.isBlank line

/-- What a line asks for before its slashes are looked at: whether it keeps, whether it is tied to
its directory, and its pattern. A backslash in front takes the special sense of `!` and `#` away. -/
def splitMarks : Text → Bool × Bool × Text
  | '\\' :: '!' :: rest => (false, false, '!' :: rest)
  | '\\' :: '#' :: rest => (false, false, '#' :: rest)
  | '!' :: '/' :: rest => (true, true, rest)
  | '!' :: rest => (true, false, rest)
  | '/' :: rest => (false, true, rest)
  | line => (false, false, line)

/-- A pattern without a slash at its end, and whether it had one. -/
def splitDirectoryMark (pattern : Text) : Bool × Text :=
  match pattern.reverse with
  | '/' :: '\\' :: rest => (true, rest.reverse)
  | '/' :: rest => (true, rest.reverse)
  | _ => (false, pattern)

/-- The glob of a pattern. One without a slash counts at any depth, and one that ends in two stars
does not match the directory itself. -/
def globText (tied : Bool) (pattern : Text) : Text :=
  let deep := ['*', '*', '/']
  let anchored :=
    if !tied && !pattern.contains '/' && pattern != ['*', '*'] then deep ++ pattern else pattern
  if ['/', '*', '*'].isSuffixOf anchored then anchored ++ ['/', '*'] else anchored

/-- The rule of a line, if it is no comment and not empty. -/
def ofLine (line : Text) : Except GlobError (Option IgnoreRule) :=
  if line.head? = some '#' then .ok none
  else
    let line := trimLine line
    if line.isEmpty then .ok none
    else
      let (keeps, tied, marked) := splitMarks line
      let (directoriesOnly, pattern) := splitDirectoryMark marked
      match Glob.read .lenient false (String.ofList (globText tied pattern)) with
      | .ok glob => .ok (some ⟨glob, keeps, directoriesOnly⟩)
      | .error e => .error ⟨String.ofList line, e.fault⟩

/-- The lines of a content, without their ends. -/
def byteLines : List UInt8 → List (List UInt8)
  | [] => [[]]
  | 10 :: rest => [] :: byteLines rest
  | 13 :: 10 :: rest => [] :: byteLines rest
  | b :: rest =>
    match byteLines rest with
    | line :: lines => (b :: line) :: lines
    | [] => [[b]]

/-- The lines of a content as far as they are text. -/
def textLines : List (List UInt8) → List Text
  | [] => []
  | line :: rest =>
    match String.fromUTF8? ⟨line.toArray⟩ with
    | some text => text.toList :: textLines rest
    | none => []

/-- The first line without a byte-order mark. -/
def dropMark : List Text → List Text
  | first :: rest => first.dropWhile (· == '\ufeff') :: rest
  | [] => []

/-- The lines of an ignore file as far as they are text. -/
def linesOf (content : ByteArray) : List Text :=
  dropMark (textLines (byteLines content.toList))

/-- The rules of an ignore file. -/
def ofContent (content : ByteArray) : List IgnoreRule :=
  (linesOf content).filterMap fun line => (ofLine line).toOption.join

/-- The rule speaks of a path below the directory of its file. -/
def applies (rule : IgnoreRule) (path : String) (isDirectory : Bool) : Bool :=
  rule.glob.isMatch path && (isDirectory || !rule.directoriesOnly)

end IgnoreRule

/-- Why a line of an ignore file gives no rule. -/
inductive LineFault where
  | glob (cause : GlobError)
  | notText
deriving DecidableEq, Repr

namespace LineFault

/-- What is said of the line. -/
def message : LineFault → String
  | glob cause => cause.message
  | notText => SystemError.notText.message

end LineFault

/-- A line of an ignore file that cannot be used. -/
structure RuleFault where
  file : Path
  line : Nat
  cause : LineFault
deriving DecidableEq, Repr

namespace RuleFault

/-- What is said of it. -/
def message (fault : RuleFault) : String :=
  fault.file ++ ": line " ++ toString fault.line ++ ": " ++ fault.cause.message

/-- The faults of an ignore file. Where its text ends too early that is one more, but none alone. -/
def ofContent (file : Path) (content : ByteArray) : List RuleFault :=
  let lines := IgnoreRule.linesOf content
  let faults := lines.zipIdx.filterMap fun (line, n) =>
    match IgnoreRule.ofLine line with
    | .ok _ => none
    | .error cause => some ⟨file, n + 1, .glob cause⟩
  if faults.isEmpty || lines.length == (IgnoreRule.byteLines content.toList).length then faults
  else faults ++ [⟨file, lines.length + 1, .notText⟩]

end RuleFault

/-- The rules of one directory. -/
structure IgnoreLevel where
  place : List String
  plain : List IgnoreRule
  repository : List IgnoreRule
  excluded : List IgnoreRule
  isRepository : Bool

namespace IgnoreLevel

/-- The content of the file that `names` lead to from a directory, if it can be read. -/
def contentAt? (root : FileTree) (place names : List String) : Option ByteArray :=
  match FileSystem.follow root FileSystem.maxLinks place names with
  | .error _ => none
  | .ok found =>
    match root.at? found with
    | some (.file content) => some content
    | _ => none

/-- The rules in the file that `names` lead to from a directory. -/
def rulesAt (root : FileTree) (place names : List String) : List IgnoreRule :=
  ((contentAt? root place names).map IgnoreRule.ofContent).getD []

/-- The faults of the file that `names` lead to from a directory. -/
def faultsAt (root : FileTree) (place names : List String) : List RuleFault :=
  let file := FileSystem.absolute (place ++ names)
  ((contentAt? root place names).map (RuleFault.ofContent file)).getD []

/-- There is something at the end of `names`. -/
def existsAt (root : FileTree) (place names : List String) : Bool :=
  match FileSystem.follow root FileSystem.maxLinks place names with
  | .ok _ => true
  | .error _ => false

/-- The ignore file that counts everywhere. -/
def plainFile : List String :=
  [".ignore"]

/-- The ignore file that counts inside a repository. -/
def repositoryFile : List String :=
  [".gitignore"]

/-- The exclude file of a repository. -/
def excludeFile : List String :=
  [".git", "info", "exclude"]

/-- The rules of the directory at a place. -/
def ofPlace (root : FileTree) (place : List String) : IgnoreLevel where
  place := place
  plain := rulesAt root place plainFile
  repository := rulesAt root place repositoryFile
  excluded := rulesAt root place excludeFile
  isRepository := existsAt root place [".git"] || existsAt root place [".jj"]

/-- The faults of the ignore files in all directories around a place, the outermost first. -/
def faultsAround (root : FileTree) (place : List String) : List RuleFault :=
  (List.range place.length).flatMap fun n =>
    [plainFile, repositoryFile, excludeFile].flatMap (faultsAt root (place.take n))

/-- A path as seen from the directory of the rules. -/
def relative (level : IgnoreLevel) (place : List String) : String :=
  "/".intercalate (place.drop level.place.length)

/-- What a list of rules says of a place: left out, kept, or nothing. The last rule that applies
decides. -/
def verdict (level : IgnoreLevel) (rules : List IgnoreRule) (place : List String)
    (isDirectory : Bool) : Option Bool :=
  (rules.reverse.find? fun rule => rule.applies (level.relative place) isDirectory).map
    fun rule => !rule.keeps

/-- The levels up to the nearest repository. -/
def withinRepository : List IgnoreLevel → List IgnoreLevel
  | [] => []
  | level :: outer => if level.isRepository then [level] else level :: withinRepository outer

/-- A place is left out under the rules of the directories around it, nearest first. -/
def leavesOut (levels : List IgnoreLevel) (place : List String) (isDirectory : Bool) : Bool :=
  let inside := if levels.any IgnoreLevel.isRepository then withinRepository levels else []
  let plain := levels.findSome? fun level => level.verdict level.plain place isDirectory
  let repository := inside.findSome? fun level => level.verdict level.repository place isDirectory
  let excluded := inside.findSome? fun level => level.verdict level.excluded place isDirectory
  ((plain.or repository).or excluded).getD false

end IgnoreLevel

end SourceSimilarity.Files
