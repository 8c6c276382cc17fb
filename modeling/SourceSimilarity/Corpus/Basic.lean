import Std.Data.HashSet
import SourceSimilarity.Canonical.Normalize
import SourceSimilarity.Corpus.Document
import SourceSimilarity.Corpus.Source

/-!
# Corpora

The documents of a run. Each source is read and normalized once, however many pairs it is part of.
Of several sources with one id only the first is used.
-/

namespace SourceSimilarity

/-- The documents of a run, in the order of their sources. -/
structure Corpus where
  documents : List Corpus.Document
deriving DecidableEq, Repr

namespace Corpus

open Files

/-- A source that could not be loaded. -/
structure Failure where
  id : String
  cause : LoadError
deriving DecidableEq, Repr

/-- The sources whose id is not in `seen` and does not occur earlier. -/
def firstOfEachId (seen : Std.HashSet String) : List Source → List Source
  | [] => []
  | source :: rest =>
    if seen.contains source.id then firstOfEachId seen rest
    else source :: firstOfEachId (seen.insert source.id) rest

/-- The document of a source, or why there is none. -/
def loadOne (fs : FileSystem) (reserved : Canonical.ReservedWords) (limit : Nat) (source : Source) :
    Except Failure Document :=
  match source.load fs limit with
  | .ok raw =>
    .ok (.ofCanonical source.id (byteSize raw) (Canonical.normalizeWith reserved raw))
  | .error cause => .error ⟨source.id, cause⟩

/-- Tell what was loaded from what was not, each in order. -/
def separate : List (Except Failure Document) → List Document × List Failure
  | [] => ([], [])
  | .ok document :: rest =>
    let (documents, failures) := separate rest
    (document :: documents, failures)
  | .error failure :: rest =>
    let (documents, failures) := separate rest
    (documents, failure :: failures)

/-- Load the sources, each id once. -/
def load (fs : FileSystem) (reserved : Canonical.ReservedWords) (limit : Nat)
    (sources : List Source) : Corpus × List Failure :=
  let (documents, failures) := separate ((firstOfEachId ∅ sources).map (loadOne fs reserved limit))
  (⟨documents⟩, failures)

/-- A corpus of texts that are canonical already, taken as they are. -/
def ofCanonical (texts : List (String × Text)) : Corpus :=
  ⟨texts.map fun (id, text) => .ofCanonical id (byteSize text) text⟩

/-- The document of an id: the first, if several have it. -/
def get? (corpus : Corpus) (id : String) : Option Document :=
  corpus.documents.find? fun document => document.id == id

/-- The canonical text of an id. -/
def canonical? (corpus : Corpus) (id : String) : Option Text :=
  (corpus.get? id).map Document.canonical

/-- How many documents there are. -/
def size (corpus : Corpus) : Nat :=
  corpus.documents.length

/-- There is no document. -/
def isEmpty (corpus : Corpus) : Bool :=
  corpus.documents.isEmpty

end Corpus

end SourceSimilarity
