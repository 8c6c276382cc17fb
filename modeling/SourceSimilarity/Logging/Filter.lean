import SourceSimilarity.Text.Blank
import SourceSimilarity.Logging.Record

/-!
# Log filters

Which records are shown. A filter comes from the options for being quiet or verbose, or from a
specification: directives with commas between them, each a level for a part of the program or for
all of it, and behind a slash a text that a record has to contain.
-/

namespace SourceSimilarity.Logging

/-- The highest rank of level that is shown for the targets that start with a name. -/
structure Directive where
  target : Option String
  rank : Nat
deriving DecidableEq, Repr

/-- Directives, those with longer names last, and a text to look for. -/
structure Filter where
  directives : List Directive
  text : Option String
deriving DecidableEq, Repr

namespace Filter

/-- The rank up to which everything is shown. -/
def fullRank : Nat :=
  Level.trace.rank

/-- A filter that shows the same levels of all targets. -/
def upTo (level : Level) : Filter :=
  ⟨[⟨none, level.rank⟩], none⟩

/-- The level for a number of requests to say more. -/
def ofOptions (verbosity : Nat) (quiet : Bool) : Filter :=
  if quiet then upTo .error
  else match verbosity with
    | 0 => upTo .warn
    | 1 => upTo .info
    | 2 => upTo .debug
    | _ => upTo .trace

/-! ## Specifications -/

/-- The text without blanks at its ends. -/
def trim (text : Text) : Text :=
  Text.dropTrailing Text.isBlank (text.dropWhile Text.isBlank)

/-- The rank of the level that a word names, in any case. -/
def rankOf? (word : Text) : Option Nat :=
  let name := String.ofList (word.map Char.toLower)
  if name = "off" then some 0
  else ([Level.error, .warn, .info, .debug, .trace].find? fun level => level.name == name).map
    Level.rank

/-- The directive of one part of a specification, or what is wrong with it. -/
def directiveOf (part : Text) : Except String Directive :=
  match Text.splitAt '=' part with
  | [word] =>
    match rankOf? word with
    | some rank => .ok ⟨none, rank⟩
    | none => .ok ⟨some (String.ofList word), fullRank⟩
  | [name, level] =>
    let level := trim level
    if level.isEmpty then .ok ⟨some (String.ofList name), fullRank⟩
    else match rankOf? level with
      | some rank => .ok ⟨some (String.ofList name), rank⟩
      | none => .error (String.ofList level)
  | _ => .error (String.ofList part)

/-- Add a directive; a later one for the same targets takes the place of the earlier one. -/
def insert (directive : Directive) : List Directive → List Directive
  | [] => [directive]
  | first :: rest =>
    if first.target = directive.target then directive :: rest
    else first :: insert directive rest

/-- The length of the name of a directive in bytes. -/
def nameLength (directive : Directive) : Nat :=
  (directive.target.getD "").utf8ByteSize

/-- The directives of the parts of a specification, and the parts that are none. -/
def directivesOf (parts : List Text) : List Directive × List String :=
  parts.foldl (fun (directives, faults) part =>
    if part.isEmpty then (directives, faults)
    else match directiveOf part with
      | .ok directive => (insert directive directives, faults)
      | .error fault => (directives, faults ++ [fault])) ([], [])

/-- Without any directive only errors are shown. -/
def withDefault (directives : List Directive) : List Directive :=
  if directives.isEmpty then (upTo .error).directives
  else directives.mergeSort fun a b => nameLength a ≤ nameLength b

/-- What is said of a part of a specification that cannot be used. -/
def faultLine (fault : String) : String :=
  "warning: invalid logging spec '" ++ fault ++ "', ignoring it"

/-- The filter of a specification, and the lines that tell what is wrong with it. -/
def ofSpecification (specification : Text) : Filter × List String :=
  match Text.splitAt '/' specification with
  | parts :: text =>
    if 1 < text.length then
      (⟨withDefault [], none⟩,
       ["warning: invalid logging spec '" ++ String.ofList specification
          ++ "' (too many '/'s), ignoring it"])
    else
      let (directives, faults) := directivesOf ((Text.splitAt ',' parts).map trim)
      (⟨withDefault directives, text.head?.map String.ofList⟩, faults.map faultLine)
  | [] => (⟨withDefault [], none⟩, [])

/-! ## Showing -/

/-- `needle` occurs in a text. -/
def occursIn (needle : Text) : Text → Bool
  | [] => needle.isEmpty
  | c :: rest => needle.isPrefixOf (c :: rest) || occursIn needle rest

/-- The first of the directives, longest name first, whose name the target starts with decides. -/
def admits (directives : List Directive) (record : Record) : Bool :=
  match directives.find? fun d => (d.target.getD "").toList.isPrefixOf record.target.toList with
  | some directive => record.level.rank ≤ directive.rank
  | none => false

/-- The record is shown. -/
def shows (filter : Filter) (record : Record) : Bool :=
  admits filter.directives.reverse record
    && (filter.text.all fun needle => occursIn needle.toList record.text.toList)

/-- The lines of the records that are shown. -/
def lines (filter : Filter) (log : List Record) : List String :=
  (log.filter filter.shows).map Record.line

end Filter

end SourceSimilarity.Logging
