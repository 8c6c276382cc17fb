import SourceSimilarity.Decimal.Reading

/-!
# Arguments

How a list of arguments is matched against the options and operands of a command. An option that
takes a value is settled only when the next one comes up or the arguments end, which decides which
of two faults is told.
-/

namespace SourceSimilarity.Command

/-- What is wrong with a list of arguments, or what it asks for instead of a run. -/
inductive UsageError where
  | unknownArgument
  | missingRequiredArgument
  | argumentConflict
  | valueValidation
  | invalidValue
  | invalidSubcommand
  | missingSubcommand
  | tooManyValues
  | helpWanted
  | versionWanted
  | nothingGiven
deriving DecidableEq, Repr

/-- What an option or operand stands for. -/
inductive Key where
  | verbose
  | quiet
  | config
  | width
  | threshold
  | report
  | showAll
  | json
  | includeExt
  | exclude
  | paths
  | file
  | shell
  | help
  | version
deriving DecidableEq, Repr

/-- What is done when an option is given. -/
inductive Action where
  | count
  | flag
  | set
  | append
  | help
  | version
deriving DecidableEq, Repr

/-- What the value of an option has to look like. -/
inductive ValueKind where
  | text
  /-- Several values with commas between them. -/
  | commaList
  | path
  | natural
  | float
  | choice (words : List String)
deriving DecidableEq, Repr

/-- An option with its names, or an operand, which has none. -/
structure Parameter where
  key : Key
  long : Option String
  short : Option Char
  action : Action
  kind : ValueKind
deriving DecidableEq, Repr

namespace Parameter

/-- The option has a value. -/
def takesValue (p : Parameter) : Bool :=
  p.action == .set || p.action == .append

/-- An option without a value. -/
def flag (key : Key) (long : String) (short : Option Char) : Parameter :=
  ⟨key, some long, short, .flag, .text⟩

/-- An option with one value. -/
def option (key : Key) (long : String) (short : Option Char) (kind : ValueKind) : Parameter :=
  ⟨key, some long, short, .set, kind⟩

/-- An option that may be given several times. -/
def repeated (key : Key) (long : String) (kind : ValueKind) : Parameter :=
  ⟨key, some long, none, .append, kind⟩

/-- An operand. -/
def operand (key : Key) (action : Action) (kind : ValueKind) : Parameter :=
  ⟨key, none, none, action, kind⟩

end Parameter

/-- The options of a command, its operand if it has one, and the names of its subcommands. -/
structure Grammar where
  options : List Parameter
  operand : Option Parameter
  subcommands : List String

namespace Grammar

/-- The option with a long name. -/
def byLong? (g : Grammar) (name : String) : Option Parameter :=
  g.options.find? fun p => p.long == some name

/-- The option with a short name. -/
def byShort? (g : Grammar) (name : Char) : Option Parameter :=
  g.options.find? fun p => p.short == some name

end Grammar

/-! ## Values -/

/-- The largest number that an option takes. -/
def maxNatural : Nat :=
  0xffffffffffffffff

namespace ValueKind

/-- What is wrong with a value, if anything is. -/
def fault? (kind : ValueKind) (value : String) : Option UsageError :=
  match kind with
  | text => none
  | commaList => none
  | path => if value.isEmpty then some .invalidValue else none
  | natural =>
    if (Decimal.natural? maxNatural value.toList).isSome then none else some .valueValidation
  | float => if (Decimal.float? value.toList).isSome then none else some .valueValidation
  | choice words => if words.contains value then none else some .invalidValue

/-- The values that an argument gives. -/
def split (kind : ValueKind) (value : String) : List String :=
  match kind with
  | commaList => (Text.splitAt ',' value.toList).map String.ofList
  | _ => [value]

end ValueKind

/-! ## Matching -/

/-- What was given for each key, in order. -/
abbrev Given := List (Key × String)

/-- How far matching has come: what is settled, the parameter whose values are still gathered,
whether that is an option waiting for its value, and whether all that follows are operands. -/
structure Progress where
  given : Given
  pending : Option (Parameter × List String)
  awaiting : Bool
  operandsOnly : Bool
  operandFilled : Bool

namespace Progress

/-- Nothing matched yet. -/
def start : Progress :=
  ⟨[], none, false, false, false⟩

/-- The key was given already. -/
def has (p : Progress) (key : Key) : Bool :=
  p.given.any fun given => given.1 == key

/-- Take values in, once they are found to be right. -/
def add (p : Progress) (parameter : Parameter) (values : List String) :
    Except UsageError Progress :=
  match values.findSome? parameter.kind.fault? with
  | some fault => .error fault
  | none => .ok { p with given := p.given ++ values.map fun value => (parameter.key, value) }

/-- Settle a parameter with the values gathered for it. An option given twice conflicts with itself,
before its second value is looked at. -/
def settle (p : Progress) (parameter : Parameter) (values : List String) :
    Except UsageError Progress :=
  match parameter.action with
  | .help => .error .helpWanted
  | .version => .error .versionWanted
  | .count => p.add parameter [""]
  | .flag => if p.has parameter.key then .error .argumentConflict else p.add parameter [""]
  | .set =>
    if values.isEmpty then .error .invalidValue
    else if p.has parameter.key then .error .argumentConflict
    else p.add parameter (values.flatMap parameter.kind.split)
  | .append =>
    if values.isEmpty then .error .invalidValue
    else p.add parameter (values.flatMap parameter.kind.split)

/-- Settle what is pending. -/
def resolve (p : Progress) : Except UsageError Progress :=
  match p.pending with
  | none => .ok p
  | some (parameter, values) =>
    settle { p with pending := none, awaiting := false } parameter values

/-- An option that is complete as it stands, after what was pending before it. -/
def react (p : Progress) (parameter : Parameter) (values : List String) :
    Except UsageError Progress :=
  match p.resolve with
  | .error e => .error e
  | .ok p => settle { p with awaiting := false } parameter values

/-- An option whose value is to come. -/
def await (p : Progress) (parameter : Parameter) : Except UsageError Progress :=
  match p.resolve with
  | .error e => .error e
  | .ok p => .ok { p with pending := some (parameter, []), awaiting := true }

/-- An option by its long name, with the value attached to it. -/
def long (g : Grammar) (p : Progress) (name : String) (attached : Option String) :
    Except UsageError Progress :=
  match g.byLong? name with
  | none => .error .unknownArgument
  | some parameter =>
    match parameter.takesValue, attached with
    | true, some value => p.react parameter [value]
    | true, none => p.await parameter
    | false, some _ => .error .tooManyValues
    | false, none => p.react parameter []

/-- Options by their short names, one behind the other. What follows the name of an option with a
value is its value, with or without an equals sign. -/
def short (g : Grammar) (p : Progress) : Text → Except UsageError Progress
  | [] => .ok p
  | c :: rest =>
    match g.byShort? c with
    | none => .error .unknownArgument
    | some parameter =>
      if parameter.takesValue then
        match rest with
        | [] => p.await parameter
        | '=' :: value => p.react parameter [String.ofList value]
        | value => p.react parameter [String.ofList value]
      else
        match p.react parameter [] with
        | .error e => .error e
        | .ok p => short g p rest

/-- An operand. Where no operand is left, it may have been meant as a subcommand. -/
def operand (g : Grammar) (p : Progress) (arg : String) : Except UsageError Progress :=
  match g.operand with
  | none =>
    if g.subcommands.isEmpty ∨ (p.operandsOnly ∧ g.subcommands.contains arg) then
      .error .unknownArgument
    else .error .invalidSubcommand
  | some parameter =>
    if p.operandFilled then .error .unknownArgument
    else
      match parameter.action, p.pending with
      | .append, some (gathering, values) =>
        if gathering.key = parameter.key then
          .ok { p with pending := some (parameter, values ++ [arg]) }
        else
          match p.resolve with
          | .error e => .error e
          | .ok p => .ok { p with pending := some (parameter, [arg]) }
      | action, _ =>
        match p.resolve with
        | .error e => .error e
        | .ok p =>
          .ok { p with pending := some (parameter, [arg]), operandFilled := action != .append }

/-- One argument. -/
def step (g : Grammar) (p : Progress) (arg : String) : Except UsageError Progress :=
  if p.operandsOnly then p.operand g arg
  else
    match arg.toList with
    | ['-', '-'] => .ok { p with operandsOnly := true }
    | '-' :: '-' :: body =>
      let name := String.ofList (body.takeWhile (· != '='))
      match body.dropWhile (· != '=') with
      | [] => p.long g name none
      | _ :: value => p.long g name (some (String.ofList value))
    | '-' :: c :: body => p.short g (c :: body)
    | _ =>
      match p.awaiting, p.pending with
      | true, some (parameter, values) =>
        .ok { p with pending := some (parameter, values ++ [arg]), awaiting := false }
      | _, _ => p.operand g arg

/-- All arguments up to the name of a subcommand, and what follows that. -/
def run (g : Grammar) (p : Progress) :
    List String → Except UsageError (Progress × Option (String × List String))
  | [] => .ok (p, none)
  | arg :: rest =>
    if !p.operandsOnly ∧ !p.awaiting ∧ g.subcommands.contains arg then .ok (p, some (arg, rest))
    else
      match p.step g arg with
      | .error e => .error e
      | .ok p => p.run g rest

end Progress

namespace Given

/-- All that was given for a key. -/
def values (given : Given) (key : Key) : List String :=
  (given.filter fun g => g.1 == key).map Prod.snd

/-- What was given last for a key. -/
def value? (given : Given) (key : Key) : Option String :=
  (given.values key).getLast?

/-- The key was given. -/
def has (given : Given) (key : Key) : Bool :=
  given.any fun g => g.1 == key

/-- Being quiet and being verbose exclude each other. -/
def conflicts (given : Given) : Bool :=
  given.has .quiet && given.has .verbose

end Given

/-- Match all arguments of a command that has no subcommands. Its operand has to be given. -/
def matchAll (g : Grammar) (args : List String) : Except UsageError Given :=
  match Progress.start.run g args with
  | .error e => .error e
  | .ok (p, _) =>
    match p.resolve with
    | .error e => .error e
    | .ok p =>
      if p.given.conflicts then .error .argumentConflict
      else if g.operand.all fun operand => p.has operand.key then .ok p.given
      else .error .missingRequiredArgument

end SourceSimilarity.Command
