import SourceSimilarity.Files.Glob
import SourceSimilarity.Files.Path

/-!
# Source filters

Which files found in a directory count: those with a listed extension that no exclude pattern
matches.
-/

namespace SourceSimilarity.Files

/-- The extensions that count, in lower case, and the patterns of paths that do not. -/
structure SourceFilter where
  extensions : List String
  excludes : List Glob

namespace SourceFilter

/-- The patterns in order, or what is wrong with the first bad one. -/
def readAll : List String → Except GlobError (List Glob)
  | [] => .ok []
  | pattern :: rest =>
    match Glob.read .strict true pattern with
    | .error e => .error e
    | .ok glob =>
      match readAll rest with
      | .error e => .error e
      | .ok globs => .ok (glob :: globs)

/-- The filter of a list of extensions and a list of patterns. -/
def make (extensions exclude : List String) : Except GlobError SourceFilter :=
  match readAll exclude with
  | .error e => .error e
  | .ok excludes => .ok ⟨extensions.map lowerString, excludes⟩

/-- Two strings that differ at most in the case of ASCII letters. -/
def sameLetters (a b : String) : Bool :=
  a.toList.map Char.toLower == b.toList.map Char.toLower

/-- The file at `path`, found in the directory `root`, counts. -/
def accepts (filter : SourceFilter) (path root : Path) : Bool :=
  match Path.extension? path with
  | none => false
  | some extension =>
    filter.extensions.any (sameLetters · extension)
      && !(filter.excludes.any fun glob => glob.isMatch (Path.relativeTo root path))

end SourceFilter

end SourceSimilarity.Files
