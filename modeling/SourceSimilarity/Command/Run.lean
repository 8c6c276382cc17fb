import SourceSimilarity.Command.Request
import SourceSimilarity.Files.Walk
import SourceSimilarity.Logging.Filter
import SourceSimilarity.Report.Detailed
import SourceSimilarity.Report.Json
import SourceSimilarity.Settings.Basic

/-!
# Runs

What the commands do: a comparison collects files, loads them into a corpus, compares all pairs and
reports; a normalization shows the canonical form of one file.
-/

namespace SourceSimilarity.Command

open Files Logging

/-- Why a run fails. -/
inductive RunError where
  | missingPath (cause : MissingPath)
  | score (cause : Fingerprint.ScoreError)
  | load (cause : Corpus.LoadError)
  | tooFewDocuments (found : Nat)
  | settings (cause : Settings.Failure)
  | glob (cause : GlobError)

namespace RunError

/-- What is said of a failed run. -/
def message : RunError → String
  | missingPath cause => cause.message
  | score cause => cause.message
  | load cause => cause.message
  | tooFewDocuments found => "at least two documents are required, found " ++ toString found
  | settings cause => cause.message
  | glob cause => cause.message

end RunError

/-- What a run prints, what it logs, and why it failed if it did. -/
structure Outcome where
  printed : String
  log : List Record
  failure : Option RunError

namespace Outcome

/-- A run that failed before it printed anything. -/
def failed (log : List Record) (cause : RunError) : Outcome :=
  ⟨"", log, some cause⟩

/-- The outcome with records logged before it. -/
def after (log : List Record) (outcome : Outcome) : Outcome :=
  { outcome with log := log ++ outcome.log }

end Outcome

/-! ## Log records -/

/-- The part of the program that records about comparisons come from. -/
def compareTarget : String :=
  "codesim::compare"

/-- The part of the program that records about batches come from. -/
def batchTarget : String :=
  "codesim::compare::batch"

/-- How many files were collected. -/
def collectedRecord (files : List Path) : Record :=
  ⟨.info, compareTarget, toString files.length ++ " source files collected"⟩

/-- A source that is left out because it cannot be loaded. -/
def failureRecord (failure : Corpus.Failure) : Record :=
  ⟨.warn, compareTarget, "skipping " ++ failure.id ++ ": " ++ failure.cause.message⟩

/-- A document that is left out because nothing is left of it. -/
def skippedRecord (id : String) : Record :=
  ⟨.warn, batchTarget, id ++ ": nothing left after normalization, skipping"⟩

/-- A comparison that was made. -/
def pairRecord (pair : Batch.Pair) : Record :=
  ⟨.debug, batchTarget,
    pair.left ++ " <-> " ++ pair.right ++ ": " ++ Decimal.fixed 3 pair.score ++ " (k="
      ++ toString pair.width ++ ", " ++ toString pair.segments.length ++ " segments)"⟩

/-- The records of a batch. -/
def batchRecords (batch : Batch) : List Record :=
  batch.skipped.map skippedRecord ++ batch.pairs.map pairRecord

/-! ## Comparing -/

/-- The settings of one comparison. -/
structure CompareOptions where
  width : Nat
  threshold : Float
  sizeLimit : Nat
  report : Bool
  showAll : Bool
  json : Bool

/-- The report on a batch that the options ask for. -/
def reportOn (options : CompareOptions) (corpus : Corpus) (batch : Batch) : String :=
  let metrics := Report.Metrics.ofBatch batch options.threshold
  let shown := batch.pairs.take (Report.displayLimit batch.pairs.length options.showAll)
  if options.json then Report.json metrics batch.skipped shown
  else if options.report then Report.detailed metrics shown batch.pairs.length corpus
  else Report.summary metrics batch.pairs

/-- Compare the documents of a corpus and report on them. At least two are needed. -/
def compareCorpus (options : CompareOptions) (corpus : Corpus) : Outcome :=
  match Batch.ofCorpus corpus options.width (options.report || options.json) with
  | .error cause => .failed [] (.score cause)
  | .ok batch =>
    if batch.comparedDocuments < 2 then
      .failed (batchRecords batch) (.tooFewDocuments batch.comparedDocuments)
    else ⟨reportOn options corpus batch, batchRecords batch, none⟩

/-- Load files and compare them. A file that cannot be loaded is left out with a warning. -/
def compareFiles (fs : FileSystem) (options : CompareOptions) (files : List Path) : Outcome :=
  let (corpus, failures) :=
    Corpus.load fs .builtin options.sizeLimit (files.map Corpus.Source.file)
  (compareCorpus options corpus).after (collectedRecord files :: failures.map failureRecord)

/-- Collect the files that paths stand for and compare them. -/
def comparePaths (fs : FileSystem) (filter : SourceFilter) (options : CompareOptions)
    (paths : List Path) : Outcome :=
  match collect fs filter paths with
  | (.error cause, log) => .failed log (.missingPath cause)
  | (.ok files, log) => (compareFiles fs options files).after log

/-! ## Normalizing -/

/-- A canonical text with the number of its windows, as JSON. -/
def normalizedValue (path : Path) (width : Nat) (canonical : Text) : Json.Value :=
  .object [
    ("file", .string path),
    ("k", .ofNat width),
    ("kgrams", .ofNat (Fingerprint.hashes canonical width).length),
    ("canonical", .string (String.ofList canonical))]

/-- Show the canonical form of a file. -/
def normalizeFile (fs : FileSystem) (path : Path) (width sizeLimit : Nat) (json : Bool) : Outcome :=
  match Corpus.loadFile fs path sizeLimit with
  | .error cause => .failed [] (.load cause)
  | .ok raw =>
    let canonical := Canonical.normalize raw
    let shown :=
      if json then (normalizedValue path width canonical).text else String.ofList canonical
    ⟨shown ++ "\n", [], none⟩

/-! ## Requests -/

/-- The settings with what a comparison was asked for: listed extensions take the place of those
set, exclude patterns come on top. -/
def CompareRequest.adjust (request : CompareRequest) (settings : Settings) : Settings where
  width := request.width.getD settings.width
  threshold := request.threshold.getD settings.threshold
  sizeLimit := settings.sizeLimit
  extensions := if request.extensions.isEmpty then settings.extensions else request.extensions
  exclude := settings.exclude ++ request.exclude

/-- Run a comparison under settings. -/
def runCompare (fs : FileSystem) (settings : Settings) (request : CompareRequest) : Outcome :=
  match (request.adjust settings).validate with
  | .error cause => .failed [] (.settings (.invalid cause))
  | .ok settings =>
    match SourceFilter.make settings.extensions settings.exclude with
    | .error cause => .failed [] (.glob cause)
    | .ok filter =>
      comparePaths fs filter
        { width := settings.width
          threshold := settings.threshold
          sizeLimit := settings.sizeLimit
          report := request.report
          showAll := request.showAll
          json := request.json }
        request.paths

/-- Run a normalization under settings. -/
def runNormalize (fs : FileSystem) (settings : Settings) (file : Path) (width : Option Nat)
    (json : Bool) : Outcome :=
  match { settings with width := width.getD settings.width }.validate with
  | .error cause => .failed [] (.settings (.invalid cause))
  | .ok settings => normalizeFile fs file settings.width settings.sizeLimit json

/-- Run a task under settings. -/
def runUnder (fs : FileSystem) (settings : Settings) : Task → Outcome
  | .compare request => runCompare fs settings request
  | .normalize file width json => runNormalize fs settings file width json
  | .completions _ => ⟨"", [], none⟩

/-- Run a request. A completion script does not depend on settings, so none are loaded for it. -/
def Request.run (fs : FileSystem) (request : Request) : Outcome :=
  match request.task with
  | .completions _ => ⟨"", [], none⟩
  | task =>
    match Settings.load fs request.config with
    | .error cause => .failed [] (.settings cause)
    | .ok (settings, log) => (runUnder fs settings task).after log

/-! ## The program -/

/-- What the program leaves behind: its exit status and what it wrote. -/
structure Exit where
  status : Nat
  stdout : String
  stderr : String
deriving DecidableEq, Repr

/-- The name and version of the program. -/
def versionText : String :=
  "codesim 0.1.0\n"

/-- What is said of arguments that cannot be used. -/
def UsageError.exit : UsageError → Exit
  | .helpWanted => ⟨0, "", ""⟩
  | .versionWanted => ⟨0, versionText, ""⟩
  | _ => ⟨2, "", ""⟩

/-- The filter for the records of a run, and what is wrong with its specification. A specification
counts more than the options. -/
def filterFor (specification : Option String) (request : Request) : Filter × List String :=
  match specification with
  | some text => Filter.ofSpecification text.toList
  | none => (Filter.ofOptions request.verbosity request.quiet, [])

/-- What an outcome leaves behind under a filter. -/
def Outcome.exit (outcome : Outcome) (filter : Filter) (faults : List String) : Exit where
  status := if outcome.failure.isSome then 1 else 0
  stdout := outcome.printed
  stderr := Report.printed (faults ++ filter.lines outcome.log
    ++ (outcome.failure.map fun cause => "error: " ++ cause.message).toList)

/-- Run the program on a file system with a log specification and arguments. -/
def execute (fs : FileSystem) (specification : Option String) (args : List String) : Exit :=
  match Request.parse args with
  | .error e => e.exit
  | .ok request =>
    let (filter, faults) := filterFor specification request
    (request.run fs).exit filter faults

end SourceSimilarity.Command
