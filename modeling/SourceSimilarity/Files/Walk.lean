import SourceSimilarity.Files.IgnoreRules
import SourceSimilarity.Files.SourceFilter
import SourceSimilarity.Logging.Record

/-!
# Collecting files

The paths of a command line stand for files. A file that is named is taken as it is; a directory
stands for the files below it that count, in the order of their paths. What a walk through a
directory cannot look into is passed over with a warning.
-/

namespace SourceSimilarity.Files

open Logging

/-- The directory of a repository's own files, which is never entered. -/
def repositoryName : String :=
  ".git"

/-- Why a walk has less to show than there is. -/
inductive WalkFault where
  /-- A directory cannot be read. -/
  | unreadable (path : Path) (cause : SystemError)
  /-- Ignore files around the directory of the walk have lines that cannot be used. -/
  | badRules (faults : List RuleFault)
deriving DecidableEq, Repr

/-- The part of the program that log records about collecting come from. -/
def walkTarget : String :=
  "codesim::walk"

namespace WalkFault

/-- What is said of a fault. -/
def message : WalkFault → String
  | unreadable path cause =>
    path ++ ": IO error for operation on " ++ path ++ ": " ++ cause.message
  | badRules faults => "\n".intercalate (faults.map RuleFault.message)

/-- The warning of a fault. -/
def record (fault : WalkFault) : Record :=
  ⟨.warn, walkTarget, fault.message⟩

end WalkFault

/-- What a walk comes upon: a file, or a fault in its place. -/
abbrev Finding := Except WalkFault Path

namespace Finding

/-- The file of a finding. -/
def file? : Finding → Option Path
  | .ok path => some path
  | .error _ => none

/-- The fault of a finding. -/
def fault? : Finding → Option WalkFault
  | .ok _ => none
  | .error fault => some fault

end Finding

/-- A walk does not enter the directory at a place. -/
def passesOver (levels : List IgnoreLevel) (place : List String) : Bool :=
  IgnoreLevel.leavesOut levels place true || place.getLast? == some repositoryName

mutual

/-- What a walk comes upon at an entry at `place` with the path `path`. Links are not followed. -/
def findingsAt (root : FileTree) (levels : List IgnoreLevel) (place : List String) (path : Path) :
    FileTree → List Finding
  | .file _ => if IgnoreLevel.leavesOut levels place false then [] else [.ok path]
  | .lockedFile _ => if IgnoreLevel.leavesOut levels place false then [] else [.ok path]
  | .link _ => []
  | .directory entries =>
    if passesOver levels place then []
    else findingsIn root (.ofPlace root place :: levels) place path entries
  | .lockedDirectory cause =>
    if passesOver levels place then [] else [.error (.unreadable path cause)]

/-- What a walk comes upon below a directory with the given entries. -/
def findingsIn (root : FileTree) (levels : List IgnoreLevel) (place : List String) (path : Path) :
    List (String × FileTree) → List Finding
  | [] => []
  | (name, tree) :: rest =>
    findingsAt root levels (place ++ [name]) (Path.join path name) tree
      ++ findingsIn root levels place path rest

end

/-- The rules of the directory at a place and of all directories around it, nearest first. -/
def levelsAt (root : FileTree) (place : List String) : List IgnoreLevel :=
  ((List.range (place.length + 1)).map fun n => IgnoreLevel.ofPlace root (place.take n)).reverse

/-- What a walk comes upon in the ignore files around the place where it starts. -/
def findingsAround (root : FileTree) (place : List String) : List Finding :=
  match IgnoreLevel.faultsAround root place with
  | [] => []
  | faults => [.error (.badRules faults)]

/-- What a walk comes upon that starts at a place with the given tree. -/
def walk (root : FileTree) (place : List String) (path : Path) : FileTree → List Finding
  | .directory entries =>
    findingsAround root place ++ findingsIn root (levelsAt root place) place path entries
  | .lockedDirectory cause => findingsAround root place ++ [.error (.unreadable path cause)]
  | _ => []

/-- A path that leads nowhere. -/
structure MissingPath where
  path : Path
deriving DecidableEq, Repr

namespace MissingPath

/-- What is said of a missing path. -/
def message (e : MissingPath) : String :=
  "path does not exist: " ++ e.path

end MissingPath

/-- The files among findings that count, in the order of their paths, with what is to be logged about
the walk from `path`. -/
def gather (filter : SourceFilter) (path : Path) (findings : List Finding) :
    List Path × List Record :=
  let found := ((findings.filterMap Finding.file?).filter
    fun file => filter.accepts file path).mergeSort Path.precedes
  (found, (findings.filterMap Finding.fault?).map WalkFault.record
    ++ [⟨.debug, walkTarget, path ++ ": " ++ toString found.length ++ " source files"⟩])

/-- The files that one path stands for, with what is to be logged about it. -/
def collectOne (fs : FileSystem) (filter : SourceFilter) (path : Path) :
    Except MissingPath (List Path × List Record) :=
  match fs.locate path with
  | .error _ => .error ⟨path⟩
  | .ok place =>
    match fs.root.at? place with
    | none | some (.link _) => .error ⟨path⟩
    | some (.file _) | some (.lockedFile _) => .ok ([path], [])
    | some tree => .ok (gather filter path (walk fs.root place path tree))

/-- The files that paths stand for, in the order of the paths, with what is to be logged on the way.
The first path that leads nowhere ends the collecting. -/
def collect (fs : FileSystem) (filter : SourceFilter) :
    List Path → Except MissingPath (List Path) × List Record
  | [] => (.ok [], [])
  | path :: rest =>
    match collectOne fs filter path with
    | .error e => (.error e, [])
    | .ok (found, log) =>
      let (others, otherLog) := collect fs filter rest
      (others.map (found ++ ·), log ++ otherLog)

end SourceSimilarity.Files
