/-!
# Log records

What a run has to say beside its result. A record names the part of the program it comes from, so
that a filter can select by part as well as by level.
-/

namespace SourceSimilarity.Logging

/-- How much a record matters; a filter set to one level shows it and those above. -/
inductive Level where
  | error
  | warn
  | info
  | debug
  | trace
deriving DecidableEq, Repr

namespace Level

/-- The place of a level, the most urgent first. -/
def rank : Level → Nat
  | error => 1
  | warn => 2
  | info => 3
  | debug => 4
  | trace => 5

/-- What a level is called in a log and in a specification. -/
def name : Level → String
  | error => "error"
  | warn => "warn"
  | info => "info"
  | debug => "debug"
  | trace => "trace"

end Level

/-- One thing to say. -/
structure Record where
  level : Level
  target : String
  text : String
deriving DecidableEq, Repr

namespace Record

/-- A record as it is shown. -/
def line (record : Record) : String :=
  record.level.name ++ ": " ++ record.text

end Record

end SourceSimilarity.Logging
