import SourceSimilarity.Command.Run

/-!
# The program

Takes a picture of the part of the file system that a request speaks of, runs the request on it, and
writes what comes out. Texts about usage and completion scripts are not written.
-/

namespace SourceSimilarity

open Files

/-! ## Pictures of the file system -/

/-- How deep directories are looked into. -/
def maxDepth : Nat :=
  1024

/-- How deep the exclude file of a repository lies. -/
def excludeDepth : Nat :=
  3

/-- The link at an entry of a directory, known by where it leads. -/
def readLink (entry : IO.FS.DirEntry) : IO FileTree := do
  try
    return .link (← IO.FS.realPath entry.path).toString
  catch _ =>
    return .link ""

/-- Why something cannot be opened. -/
def causeOf : IO.Error → SystemError
  | .permissionDenied .. => .permissionDenied
  | .noFileOrDirectory .. => .notFound
  | _ => .inputOutput

/-- What an entry of a directory is, if it can be seen. Links are not followed, and of a
repository's own files only those that say what does not count are looked at. -/
def readEntry : Nat → IO.FS.DirEntry → IO (Option FileTree)
  | 0, _ => return none
  | depth + 1, entry => do
    try
      match (← entry.path.symlinkMetadata).type with
      | .file =>
        try
          return some (.file (← IO.FS.readBinFile entry.path))
        catch e =>
          return some (.lockedFile (causeOf e))
      | .symlink => return some (← readLink entry)
      | .dir =>
        try
          let inner ← entry.path.readDir
          let seen := inner.toList.filter fun e =>
            entry.fileName != repositoryName || e.fileName == "info"
          let entries ← seen.filterMapM fun e => do
            return (← readEntry depth e).map fun tree => (e.fileName, tree)
          return some (.directory entries)
        catch e =>
          return some (.lockedDirectory (causeOf e))
      | .other => return none
    catch _ =>
      return none

/-- The names on an absolute path. -/
def namesOf (path : Path) : List String :=
  (FileSystem.parts path).filter (!·.isEmpty)

/-- The tree with an entry of the directory at `place` in it, if the entry can be seen. -/
def addEntry (depth : Nat) (place : List String) (tree : FileTree) (name : String) :
    IO FileTree := do
  match ← readEntry depth ⟨FileSystem.absolute place, name⟩ with
  | some entry => return entry.insert (place ++ [name]) tree
  | none => return tree

/-- The tree with the link at an absolute path in it, if there is one. -/
def addLink (tree : FileTree) (directory : Path) (name : String) : IO FileTree := do
  let entry : IO.FS.DirEntry := ⟨directory, name⟩
  match (← entry.path.symlinkMetadata).type with
  | .symlink =>
    let place := namesOf (← IO.FS.realPath directory).toString
    return (← readLink entry).insert (place ++ [name]) tree
  | _ => return tree

/-- The tree with what an absolute path leads to in it, the links on the way, and the files around
it that say what does not count. -/
def addPath (tree : FileTree) (path : Path) : IO FileTree := do
  let parts := FileSystem.parts path
  try
    let linked ← (List.range parts.length).foldlM (fun tree n =>
      addLink tree ("/".intercalate ("" :: parts.take n)) (parts.getD n "")) tree
    let place := namesOf (← IO.FS.realPath path).toString
    let names := [".ignore", ".gitignore", repositoryName, ".jj"]
    let around ← (List.range place.length).foldlM (fun tree n =>
      names.foldlM (addEntry excludeDepth (place.take n)) tree) linked
    match place.getLast? with
    | some name => addEntry maxDepth place.dropLast around name
    | none => return around
  catch _ =>
    return tree

/-- The paths that a request speaks of. -/
def Command.Request.paths (request : Command.Request) : List Path :=
  let settings := request.config.getD Settings.fileName
  match request.task with
  | .compare compared => settings :: compared.paths
  | .normalize file _ _ => [settings, file]
  | .completions _ => []

/-- As much of the file system as arguments speak of. -/
def readFileSystem (args : List String) : IO FileSystem := do
  let current := namesOf (← IO.FS.realPath ".").toString
  let empty := (FileTree.directory []).insert current (.directory [])
  match Command.Request.parse args with
  | .error _ => return ⟨empty, current⟩
  | .ok request =>
    let paths := request.paths.map fun path =>
      if path.startsWith "/" then path else FileSystem.absolute current ++ "/" ++ path
    return ⟨← paths.foldlM addPath empty, current⟩

end SourceSimilarity

/-- Run the program. -/
def main (args : List String) : IO UInt32 := do
  let fs ← SourceSimilarity.readFileSystem args
  let exit := SourceSimilarity.Command.execute fs (← IO.getEnv "RUST_LOG") args
  IO.print exit.stdout
  IO.eprint exit.stderr
  return exit.status.toUInt32
