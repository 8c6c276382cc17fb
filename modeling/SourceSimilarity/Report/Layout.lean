import SourceSimilarity.Text.Columns

/-!
# Layout of reports

Labels are aligned by the columns they take on a terminal, figures by their characters.
-/

namespace SourceSimilarity.Report

/-- `count` spaces. -/
def spaces (count : Nat) : String :=
  String.ofList (List.replicate count ' ')

/-- The columns of the widest label, or `least` if that is more. -/
def labelWidth (labels : List String) (least : Nat) : Nat :=
  labels.foldl (fun width label => max width (Text.columns label.toList)) least

/-- A label filled up with spaces to `width` columns. A wider one stays as it is. -/
def padRight (label : String) (width : Nat) : String :=
  label ++ spaces (width - Text.columns label.toList)

/-- A figure moved right by spaces in front of it to `width` characters. -/
def alignRight (figure : String) (width : Nat) : String :=
  spaces (width - figure.length) ++ figure

/-- A horizontal line. -/
def separator (width : Nat) : String :=
  String.ofList (List.replicate width '─')

/-- Lines as they are printed, each with its end. -/
def printed (lines : List String) : String :=
  String.join (lines.map (· ++ "\n"))

end SourceSimilarity.Report
