import SourceSimilarity.Batch.Basic
import SourceSimilarity.Batch.Pair
import SourceSimilarity.Batch.Ranking
import SourceSimilarity.Canonical.Comment
import SourceSimilarity.Canonical.Fragment
import SourceSimilarity.Canonical.Identifier
import SourceSimilarity.Canonical.Layout
import SourceSimilarity.Canonical.Lexer
import SourceSimilarity.Canonical.Normalize
import SourceSimilarity.Canonical.Number
import SourceSimilarity.Canonical.Quoted
import SourceSimilarity.Canonical.ReservedWords
import SourceSimilarity.Canonical.Scan
import SourceSimilarity.Command.Arguments
import SourceSimilarity.Command.Request
import SourceSimilarity.Command.Run
import SourceSimilarity.Corpus.Basic
import SourceSimilarity.Corpus.Document
import SourceSimilarity.Corpus.Source
import SourceSimilarity.Decimal.Binary
import SourceSimilarity.Decimal.Notation
import SourceSimilarity.Decimal.Reading
import SourceSimilarity.Decimal.Shortest
import SourceSimilarity.Files.FileSystem
import SourceSimilarity.Files.Glob
import SourceSimilarity.Files.IgnoreRules
import SourceSimilarity.Files.Path
import SourceSimilarity.Files.Reader
import SourceSimilarity.Files.SourceFilter
import SourceSimilarity.Files.Walk
import SourceSimilarity.Fingerprint.Hash
import SourceSimilarity.Fingerprint.Match
import SourceSimilarity.Fingerprint.Overlap
import SourceSimilarity.Fingerprint.Segment
import SourceSimilarity.Fingerprint.Tiling
import SourceSimilarity.Json.Value
import SourceSimilarity.Logging.Filter
import SourceSimilarity.Logging.Record
import SourceSimilarity.Main
import SourceSimilarity.Proofs.Batch.AllPairs
import SourceSimilarity.Proofs.Batch.MatchedLength
import SourceSimilarity.Proofs.Batch.NumericScores
import SourceSimilarity.Proofs.Batch.OrderIndependence
import SourceSimilarity.Proofs.Batch.Ranking
import SourceSimilarity.Proofs.Batch.ScoreOrder
import SourceSimilarity.Proofs.Canonical.Form
import SourceSimilarity.Proofs.Canonical.Gaps
import SourceSimilarity.Proofs.Canonical.Idempotence
import SourceSimilarity.Proofs.Canonical.Joining
import SourceSimilarity.Proofs.Canonical.Layout
import SourceSimilarity.Proofs.Canonical.LetterCase
import SourceSimilarity.Proofs.Canonical.Lines
import SourceSimilarity.Proofs.Canonical.LongestNumbers
import SourceSimilarity.Proofs.Canonical.Lookup
import SourceSimilarity.Proofs.Canonical.Names
import SourceSimilarity.Proofs.Canonical.NumberJoints
import SourceSimilarity.Proofs.Canonical.Reading
import SourceSimilarity.Proofs.Canonical.ReservedWords
import SourceSimilarity.Proofs.Canonical.Scanning
import SourceSimilarity.Proofs.Canonical.SingleWords
import SourceSimilarity.Proofs.Canonical.Values
import SourceSimilarity.Proofs.Canonical.Words
import SourceSimilarity.Proofs.Command.Accounting
import SourceSimilarity.Proofs.Corpus.FileText
import SourceSimilarity.Proofs.Corpus.Loading
import SourceSimilarity.Proofs.Files.Extensions
import SourceSimilarity.Proofs.Files.WalkFaults
import SourceSimilarity.Proofs.Fingerprint.Agreement
import SourceSimilarity.Proofs.Fingerprint.Board
import SourceSimilarity.Proofs.Fingerprint.Collision
import SourceSimilarity.Proofs.Fingerprint.Covered
import SourceSimilarity.Proofs.Fingerprint.Decomposition
import SourceSimilarity.Proofs.Fingerprint.Detection
import SourceSimilarity.Proofs.Fingerprint.Exactness
import SourceSimilarity.Proofs.Fingerprint.Exhaustion
import SourceSimilarity.Proofs.Fingerprint.Hash
import SourceSimilarity.Proofs.Fingerprint.Jaccard
import SourceSimilarity.Proofs.Fingerprint.Join
import SourceSimilarity.Proofs.Fingerprint.Match
import SourceSimilarity.Proofs.Fingerprint.Overlap
import SourceSimilarity.Proofs.Fingerprint.Prefixes
import SourceSimilarity.Proofs.Fingerprint.Quotient
import SourceSimilarity.Proofs.Fingerprint.Segment
import SourceSimilarity.Proofs.Fingerprint.Selection
import SourceSimilarity.Proofs.Fingerprint.SharedHashes
import SourceSimilarity.Proofs.Fingerprint.SmallDifferences
import SourceSimilarity.Proofs.Fingerprint.Tiling
import SourceSimilarity.Proofs.Fingerprint.Windows
import SourceSimilarity.Proofs.Report.Snippets
import SourceSimilarity.Proofs.Report.TopPairs
import SourceSimilarity.Proofs.Text.Classes
import SourceSimilarity.Proofs.Text.TitleCase
import SourceSimilarity.Report.Detailed
import SourceSimilarity.Report.Json
import SourceSimilarity.Report.Layout
import SourceSimilarity.Report.Metrics
import SourceSimilarity.Report.Summary
import SourceSimilarity.Settings.Basic
import SourceSimilarity.Settings.Toml
import SourceSimilarity.Text.Basic
import SourceSimilarity.Text.Blank
import SourceSimilarity.Text.Case
import SourceSimilarity.Text.CaseTable
import SourceSimilarity.Text.ColumnTable
import SourceSimilarity.Text.Columns
import SourceSimilarity.Text.Word
import SourceSimilarity.Text.WordTable
import SourceSimilarity.Proofs.Fingerprint.Selection
