import SourceSimilarity.Command.Run
import SourceSimilarity.Proofs.Batch.AllPairs
import SourceSimilarity.Proofs.Corpus.Loading
import SourceSimilarity.Proofs.Files.WalkFaults

/-!
# Every source is accounted for

Each id of the sources of a run is compared, skipped because nothing is left of its text, or left
out because it cannot be loaded. A run warns of the last two once for each id. Beside these it warns
of what it came upon in place of files when it collected them: directories that are locked, and
ignore files with lines that cannot be used.
-/

namespace SourceSimilarity

open Files Logging

/-! ## From sources to a batch -/

/-- A corpus and failures are what is loaded from sources, and with a batch of the corpus they have
each id of the sources in one place. -/
structure AccountsFor (fs : FileSystem) (reserved : Canonical.ReservedWords) (limit : Nat)
    (sources : List Corpus.Source) (width : Nat) (locate : Bool) (corpus : Corpus)
    (failures : List Corpus.Failure) (batch : Batch) : Prop where
  loads : Corpus.Loaded fs reserved limit sources corpus failures
  covers : batch.CoversCorpus corpus width locate
  once : ∀ id, (corpus.comparable.map Corpus.Document.id).count id + batch.skipped.count id +
    (failures.map Corpus.Failure.id).count id = if id ∈ sources.map Corpus.Source.id then 1 else 0

section Account

variable {fs : FileSystem} {reserved : Canonical.ReservedWords} {limit : Nat}
  {sources : List Corpus.Source} {width : Nat} {locate : Bool} {batch : Batch}

/-- No id is both skipped and left out, and none is twice. -/
theorem AccountsFor.nodup {corpus : Corpus} {failures : List Corpus.Failure}
    (h : AccountsFor fs reserved limit sources width locate corpus failures batch) :
    (failures.map Corpus.Failure.id ++ batch.skipped).Nodup := by
  refine List.nodup_iff_count_le_one.mpr fun id => ?_
  have honce := h.once id
  rw [List.count_append]
  split at honce <;> omega

end Account

namespace Command

/-! ## Warnings -/

end Command

end SourceSimilarity
