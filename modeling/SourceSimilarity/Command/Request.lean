import SourceSimilarity.Command.Arguments
import SourceSimilarity.Files.Path

/-!
# Requests

The commands of the program and what they are asked to do.
-/

namespace SourceSimilarity.Command

open Files

/-- The shells for which a completion script can be asked for. -/
inductive Shell where
  | bash
  | elvish
  | fish
  | powershell
  | zsh
deriving DecidableEq, Repr

namespace Shell

/-- All shells. -/
def all : List Shell :=
  [bash, elvish, fish, powershell, zsh]

/-- What a shell is called on the command line. -/
def name : Shell → String
  | bash => "bash"
  | elvish => "elvish"
  | fish => "fish"
  | powershell => "powershell"
  | zsh => "zsh"

/-- The shell of a name. -/
def ofName? (name : String) : Option Shell :=
  all.find? fun shell => shell.name == name

end Shell

/-- What a comparison is asked for. What is missing is taken from the settings. -/
structure CompareRequest where
  paths : List Path
  width : Option Nat
  threshold : Option Float
  report : Bool
  showAll : Bool
  json : Bool
  extensions : List String
  exclude : List String

/-- A command with its options. -/
inductive Task where
  | compare (request : CompareRequest)
  | normalize (file : Path) (width : Option Nat) (json : Bool)
  | completions (shell : Shell)

/-- A command, how much it is to say, and where its settings are. -/
structure Request where
  verbosity : Nat
  quiet : Bool
  config : Option Path
  task : Task

/-! ## Grammars -/

/-- The options that every command takes. -/
def globalOptions : List Parameter :=
  [⟨.verbose, some "verbose", some 'v', .count, .text⟩,
   .flag .quiet "quiet" (some 'q'),
   .option .config "config" none .path,
   ⟨.help, some "help", some 'h', .help, .text⟩]

/-- The names of the commands, of which one only gives help. -/
def commandNames : List String :=
  ["compare", "normalize", "completions", "help"]

/-- What may stand before the command. -/
def rootGrammar : Grammar where
  options := globalOptions ++ [⟨.version, some "version", some 'V', .version, .text⟩]
  operand := none
  subcommands := commandNames

/-- The width of windows, for the commands that need it. -/
def widthOption : Parameter :=
  .option .width "k" (some 'k') .natural

/-- What a comparison is asked for with. -/
def compareGrammar : Grammar where
  options := globalOptions ++
    [widthOption,
     .option .threshold "threshold" none .float,
     .flag .report "report" (some 'r'),
     .flag .showAll "show-all" none,
     .flag .json "json" none,
     .repeated .includeExt "include-ext" .commaList,
     .repeated .exclude "exclude" .text]
  operand := some (.operand .paths .append .path)
  subcommands := []

/-- What a normalization is asked for with. -/
def normalizeGrammar : Grammar where
  options := globalOptions ++ [widthOption, .flag .json "json" none]
  operand := some (.operand .file .set .path)
  subcommands := []

/-- What a completion script is asked for with. -/
def completionsGrammar : Grammar where
  options := globalOptions
  operand := some (.operand .shell .set (.choice (Shell.all.map Shell.name)))
  subcommands := []

/-! ## From arguments -/

/-- The width that was asked for. -/
def widthOf (given : Given) : Option Nat :=
  (given.value? .width).bind fun value => Decimal.natural? maxNatural value.toList

/-- The task of the command `name`. -/
def taskOf? (name : String) (given : Given) : Option Task :=
  match name with
  | "compare" => some (.compare {
      paths := given.values .paths
      width := widthOf given
      threshold := (given.value? .threshold).bind fun value => Decimal.float? value.toList
      report := given.has .report
      showAll := given.has .showAll
      json := given.has .json
      extensions := given.values .includeExt
      exclude := given.values .exclude })
  | "normalize" =>
    (given.value? .file).map fun file => .normalize file (widthOf given) (given.has .json)
  | "completions" => ((given.value? .shell).bind Shell.ofName?).map .completions
  | _ => none

/-- The grammar of the command `name`. -/
def grammarOf? (name : String) : Option Grammar :=
  match name with
  | "compare" => some compareGrammar
  | "normalize" => some normalizeGrammar
  | "completions" => some completionsGrammar
  | _ => none

/-- Help can be asked for a command by its name. -/
def helpOn : List String → UsageError
  | [] => .helpWanted
  | [name] => if commandNames.contains name then .helpWanted else .invalidSubcommand
  | _ => .invalidSubcommand

/-- How often a key was given, as far as it is counted. -/
def countOf (given : Given) (key : Key) : Nat :=
  min (given.values key).length 255

/-- A request from what was given before the command and behind it. What is given behind it counts
more. -/
def requestOf (before behind : Given) (task : Task) : Request where
  verbosity := if behind.has .verbose then countOf behind .verbose else countOf before .verbose
  quiet := behind.has .quiet || before.has .quiet
  config := (behind.value? .config).or (before.value? .config)
  task := task

/-- Without a command there is nothing to do. -/
def withoutCommand (p : Progress) : UsageError :=
  match p.resolve with
  | .error e => e
  | .ok p => if p.given.isEmpty then .nothingGiven else .missingSubcommand

/-- What was given before a command, once it is found to be right. -/
def settleBefore (p : Progress) : Except UsageError Given :=
  match p.resolve with
  | .error e => .error e
  | .ok p => if p.given.conflicts then .error .argumentConflict else .ok p.given

/-- What a list of arguments asks for. Faults behind the command are told before those in front. -/
def Request.parse (args : List String) : Except UsageError Request :=
  match Progress.start.run rootGrammar args with
  | .error e => .error e
  | .ok (p, none) => .error (withoutCommand p)
  | .ok (p, some (name, rest)) =>
    match grammarOf? name with
    | none => .error (helpOn rest)
    | some grammar =>
      match matchAll grammar rest with
      | .error e => .error e
      | .ok behind =>
        match settleBefore p, taskOf? name behind with
        | .error e, _ => .error e
        | .ok before, some task => .ok (requestOf before behind task)
        | .ok _, none => .error .missingRequiredArgument

end SourceSimilarity.Command
