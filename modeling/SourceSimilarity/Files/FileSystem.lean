import SourceSimilarity.Files.Path

/-!
# File systems

A file system is a value: a tree of directories, files and symbolic links, and the directory that
paths start from. Looking at a path follows links; a chain of links that never ends is refused. A
locked directory lets nobody in, so the tree does not say what is in it.
-/

namespace SourceSimilarity.Files

/-- Why the system refuses to open or read a path. -/
inductive SystemError where
  | notFound
  | notDirectory
  | isDirectory
  | tooManyLinks
  | nameTooLong
  | nulInPath
  | notText
  | permissionDenied
  | inputOutput
deriving DecidableEq, Repr

namespace SystemError

/-- What the system says. -/
def message : SystemError → String
  | notFound => "No such file or directory (os error 2)"
  | notDirectory => "Not a directory (os error 20)"
  | isDirectory => "Is a directory (os error 21)"
  | tooManyLinks => "Too many levels of symbolic links (os error 40)"
  | nameTooLong => "File name too long (os error 36)"
  | nulInPath => "file name contained an unexpected NUL byte"
  | notText => "stream did not contain valid UTF-8"
  | permissionDenied => "Permission denied (os error 13)"
  | inputOutput => "Input/output error (os error 5)"

end SystemError

/-- A file, a symbolic link or a directory with its entries. What is locked is seen by its kind, but
the system refuses to open it. -/
inductive FileTree where
  | file (content : ByteArray)
  | link (target : Path)
  | directory (entries : List (String × FileTree))
  | lockedFile (cause : SystemError)
  | lockedDirectory (cause : SystemError)

namespace FileTree

/-- The entry of a directory by its name. -/
def entry? (name : String) : FileTree → Option FileTree
  | directory entries => entries.lookup name
  | _ => none

/-- What stands at the end of a list of names. -/
def at? : List String → FileTree → Option FileTree
  | [], tree => some tree
  | name :: names, tree => (tree.entry? name).bind (at? names)

/-- A file, locked or not. -/
def isFile : FileTree → Bool
  | file _ | lockedFile _ => true
  | _ => false

end FileTree

/-- Put something at the end of a list of names, with the directories on the way. An empty directory
takes nothing away from one that is there already. -/
def FileTree.insert (entry : FileTree) : List String → FileTree → FileTree
  | [], tree =>
    match entry, tree with
    | .directory [], .directory entries => .directory entries
    | _, _ => entry
  | name :: names, tree =>
    let entries := match tree with
      | .directory entries => entries
      | _ => []
    let inner := (entries.lookup name).getD (.directory [])
    .directory (entries.filter (fun e => e.1 != name) ++ [(name, insert entry names inner)])

/-- A tree and the directory in it that relative paths start from. -/
structure FileSystem where
  root : FileTree
  current : List String

namespace FileSystem

/-- How many links are followed on one path. -/
def maxLinks : Nat :=
  40

/-- How many bytes a name may have. -/
def maxNameBytes : Nat :=
  255

/-- How many bytes a path may have, its end mark included. -/
def maxPathBytes : Nat :=
  4096

/-- The size that the system gives a directory, which is the space for its entries. -/
def directorySize : Nat :=
  4096

/-- The parts of a path. -/
def parts (path : Path) : List String :=
  (Text.splitAt '/' path.toList).map String.ofList

/-- The path of a place. -/
def absolute (place : List String) : Path :=
  "/" ++ "/".intercalate place

/-- The place where following `path` starts. -/
def start (current : List String) (path : Path) : List String :=
  if path.startsWith "/" then [] else current

/-- Follow parts from the directory or file at `place`. The answer is a place without links. -/
def follow (root : FileTree) (links : Nat) (place : List String) :
    List String → Except SystemError (List String)
  | [] => .ok place
  | part :: rest =>
    match root.at? place with
    | some (.directory entries) =>
      if part = "" ∨ part = "." then follow root links place rest
      else if part = ".." then follow root links place.dropLast rest
      else if maxNameBytes < part.utf8ByteSize then .error .nameTooLong
      else match entries.lookup part with
        | none => .error .notFound
        | some (.link target) =>
          match links with
          | 0 => .error .tooManyLinks
          | links + 1 =>
            if target.isEmpty then .error .notFound
            else follow root links (start place target) (parts target ++ rest)
        | some _ => follow root links (place ++ [part]) rest
    | some (.lockedDirectory cause) =>
      if part = "" then follow root links place rest else .error cause
    | _ => .error .notDirectory
termination_by names => (links, names.length)

/-- The place that a path leads to, all links followed. -/
def locate (fs : FileSystem) (path : Path) : Except SystemError (List String) :=
  if path.toList.contains '\x00' then .error .nulInPath
  else if path.isEmpty then .error .notFound
  else if maxPathBytes ≤ path.utf8ByteSize then .error .nameTooLong
  else follow fs.root maxLinks (start fs.current path) (parts path)

/-- What a path leads to. -/
def lookup (fs : FileSystem) (path : Path) : Except SystemError FileTree := do
  let place ← fs.locate path
  match fs.root.at? place with
  | some tree => .ok tree
  | none => .error .notFound

/-- The path leads to a file. -/
def isFile (fs : FileSystem) (path : Path) : Bool :=
  match fs.lookup path with
  | .ok tree => tree.isFile
  | .error _ => false

/-- The bytes of what was found at a path. -/
def contentOf : FileTree → Except SystemError ByteArray
  | .file content => .ok content
  | .link _ => .error .notFound
  | .directory _ => .error .isDirectory
  | .lockedFile cause | .lockedDirectory cause => .error cause

/-- The whole file at a path, as text. -/
def readText (fs : FileSystem) (path : Path) : Except SystemError String := do
  let content ← contentOf (← fs.lookup path)
  match String.fromUTF8? content with
  | some text => .ok text
  | none => .error .notText

end FileSystem

end SourceSimilarity.Files
