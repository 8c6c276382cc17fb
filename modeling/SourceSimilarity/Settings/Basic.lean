import SourceSimilarity.Corpus.Source
import SourceSimilarity.Decimal.Notation
import SourceSimilarity.Fingerprint.Hash
import SourceSimilarity.Logging.Record
import SourceSimilarity.Settings.Toml

/-!
# Settings

What can be set for a run, in a file or on the command line. Every key of the file may be left out.
-/

namespace SourceSimilarity

/-- The settings of a run. -/
structure Settings where
  /-- The width of windows in characters. -/
  width : Nat
  /-- Pairs with this score or a higher one are flagged. -/
  threshold : Float
  /-- The largest file that is loaded, in bytes. -/
  sizeLimit : Nat
  /-- The extensions that count in directories, without the point. -/
  extensions : List String
  /-- Glob patterns of paths that do not count in directories. -/
  exclude : List String

namespace Settings

open Files Logging

/-- The extensions that count unless others are set. -/
def defaultExtensions : List String :=
  ["c", "cc", "cpp", "cxx", "h", "hh", "hpp", "cs", "java", "kt", "kts", "scala", "go", "rs",
   "swift", "py", "rb", "php", "js", "jsx", "mjs", "cjs", "ts", "tsx", "dart"]

/-- The settings where nothing is set. -/
def default : Settings where
  width := Fingerprint.defaultWidth
  threshold := 0.8
  sizeLimit := Corpus.defaultSizeLimit
  extensions := defaultExtensions
  exclude := []

/-- The file that is looked for in the current directory if no other is named. -/
def fileName : Path :=
  "codesim.toml"

/-- The part of the program that log records about settings come from. -/
def logTarget : String :=
  "codesim::config"

/-! ## Errors -/

/-- A setting whose value makes no sense. -/
inductive Invalid where
  | zeroWidth
  | threshold (value : Float)

namespace Invalid

/-- What is said of a setting. -/
def message : Invalid → String
  | zeroWidth => "k must be at least 1"
  | threshold value => "threshold must be between 0 and 1, got " ++ Decimal.plain value

end Invalid

/-- Why there are no settings. -/
inductive Failure where
  | system (path : Path) (cause : SystemError)
  | malformed (path : Path)
  | invalid (cause : Invalid)

namespace Failure

/-- What is said. It is not said how a malformed file is malformed. -/
def message : Failure → String
  | system path cause => "cannot read config " ++ path ++ ": " ++ cause.message
  | malformed path => "cannot parse config " ++ path ++ ": not a settings text"
  | invalid cause => "invalid config value: " ++ cause.message

end Failure

/-! ## From a file -/

/-- The strings of an array of strings. -/
def strings? : List Value → Option (List String)
  | [] => some []
  | .string text :: rest => (strings? rest).map (String.ofList text :: ·)
  | _ :: _ => none

/-- Set one key. An unknown key and a value of the wrong kind are refused; an integer may stand for
a float. -/
def assign? (settings : Settings) (key : String) (value : Value) : Option Settings :=
  match key, value with
  | "k", .integer n => if 0 ≤ n then some { settings with width := n.toNat } else none
  | "threshold", .float x => some { settings with threshold := x }
  | "threshold", .integer n => some { settings with threshold := Float.ofInt n }
  | "max_file_size", .integer n =>
    if 0 ≤ n then some { settings with sizeLimit := n.toNat } else none
  | "include_ext", .array values =>
    (strings? values).map fun names => { settings with extensions := names }
  | "exclude", .array values =>
    (strings? values).map fun patterns => { settings with exclude := patterns }
  | _, _ => none

/-- Set keys one after the other. -/
def assignAll? (settings : Settings) : List (String × Value) → Option Settings
  | [] => some settings
  | (key, value) :: rest =>
    (settings.assign? key value).bind fun settings => settings.assignAll? rest

/-- The settings that a text makes. -/
def ofText? (text : Text) : Option Settings :=
  (read? text).bind default.assignAll?

/-- A width must not be zero, and a threshold is a share. -/
def validate (settings : Settings) : Except Invalid Settings :=
  if settings.width = 0 then .error .zeroWidth
  else if 0 <= settings.threshold ∧ settings.threshold <= 1 then .ok settings
  else .error (.threshold settings.threshold)

/-- The settings of a file. -/
def ofFile (fs : FileSystem) (path : Path) : Except Failure (Settings × List Record) :=
  match fs.readText path with
  | .error cause => .error (.system path cause)
  | .ok text =>
    match ofText? text.toList with
    | none => .error (.malformed path)
    | some settings =>
      match settings.validate with
      | .error cause => .error (.invalid cause)
      | .ok settings => .ok (settings, [⟨.info, logTarget, "loaded configuration from " ++ path⟩])

/-- The settings of the file that is named, or of the usual file if there is one. -/
def load (fs : FileSystem) (path? : Option Path) : Except Failure (Settings × List Record) :=
  match path? with
  | some path => ofFile fs path
  | none =>
    if fs.isFile fileName then ofFile fs fileName
    else .ok (default, [⟨.debug, logTarget, "no " ++ fileName ++ " found, using defaults"⟩])

end Settings

end SourceSimilarity
