import SourceSimilarity.Text.Basic
import SourceSimilarity.Files.FileSystem
import SourceSimilarity.Files.Reader

/-!
# Sources

Where the text of a document comes from, and why it may be refused. Of several reasons the first in
the order too large, binary, not UTF-8 is given.
-/

namespace SourceSimilarity.Corpus

open Files

/-- A file, or a text that is at hand already. -/
inductive Source where
  | file (path : Path)
  | memory (id : String) (text : Text)
deriving DecidableEq, Repr

/-- Why a text cannot be loaded. -/
inductive LoadError where
  | system (path : Path) (cause : SystemError)
  | tooLarge (path : Path) (size limit : Nat)
  | binary (path : Path)
  | invalidUtf8 (path : Path)
deriving DecidableEq, Repr

namespace LoadError

/-- What is said of a text that cannot be loaded. -/
def message : LoadError → String
  | system path cause => s!"I/O error for {path}: {cause.message}"
  | tooLarge path size limit => s!"{path} is too large ({size} bytes, limit {limit})"
  | binary path => s!"{path} looks like a binary file"
  | invalidUtf8 path => s!"{path} is not valid UTF-8"

end LoadError

/-- The largest file that is loaded unless another limit is set. -/
def defaultSizeLimit : Nat :=
  10 * 1024 * 1024

/-- The mark that some editors put in front of a text. -/
def byteOrderMark : Char :=
  '\ufeff'

/-- The text without one mark in front. -/
def dropMark : Text → Text
  | [] => []
  | c :: rest => if c = byteOrderMark then rest else c :: rest

/-- The text of a file that is opened at its start. Sniffing rewinds the reader, so the text is the
whole content. -/
def decode (path : Path) (reader : Reader) : Except LoadError Text :=
  let (isBinary, reader) := reader.sniffBinary
  if isBinary then .error (.binary path)
  else match String.fromUTF8? reader.readToEnd with
    | none => .error (.invalidUtf8 path)
    | some text => .ok (dropMark text.toList)

/-- The text of a file of at most `limit` bytes. -/
def loadContent (path : Path) (limit : Nat) (content : ByteArray) : Except LoadError Text :=
  if limit < content.size then .error (.tooLarge path content.size limit)
  else decode path (.ofContent content)

/-- The text of a file in a file system. A directory has a size but cannot be read, and what is
locked is not even opened. -/
def loadFile (fs : FileSystem) (path : Path) (limit : Nat) : Except LoadError Text :=
  match fs.lookup path with
  | .error cause => .error (.system path cause)
  | .ok (.file content) => loadContent path limit content
  | .ok (.link _) => .error (.system path .notFound)
  | .ok (.directory _) =>
    let size := FileSystem.directorySize
    if limit < size then .error (.tooLarge path size limit) else .error (.system path .isDirectory)
  | .ok (.lockedFile cause) | .ok (.lockedDirectory cause) => .error (.system path cause)

namespace Source

/-- What a source is known by: the path as it was given, or the id of the text. -/
def id : Source → String
  | file path => path
  | memory id _ => id

/-- The raw text of a source. A text at hand has no limit. -/
def load (fs : FileSystem) (limit : Nat) : Source → Except LoadError Text
  | file path => loadFile fs path limit
  | memory _ text => .ok text

end Source

end SourceSimilarity.Corpus
