import SourceSimilarity.Text.Basic
import SourceSimilarity.Text.CaseTable

/-!
# Letter case

Lower case of a text in the full sense: a letter may become several characters, and a sigma is
written differently at the end of a word.
-/

namespace SourceSimilarity.Text

/-- An upper-case letter of any script. Title-case letters do not count. -/
def isUpper (c : Char) : Bool :=
  c.isUpper || (!isAscii c && inRuns upperRuns c)

/-- A letter that has a case. -/
def isCased (c : Char) : Bool :=
  inRanges casedRanges c

/-- A character that is looked through when deciding whether a sigma ends a word. -/
def isCaseIgnorable (c : Char) : Bool :=
  inRanges caseIgnorableRanges c

/-- The one-letter partner of `c` in the table, or `c` itself. -/
def lowerPartner (c : Char) : Char :=
  match lowerRuns.find? fun (first, last, step, _) =>
      first ≤ c.toNat && c.toNat ≤ last && (c.toNat - first) % step == 0 with
  | some (first, _, _, partner) => Char.ofNat (partner + (c.toNat - first))
  | none => c

/-- Lower case of one letter on its own. The dotted capital I keeps its dot as a mark. -/
def lowerChar (c : Char) : Text :=
  if isAscii c then [c.toLower]
  else if c = 'İ' then ['i', '\u0307']
  else [lowerPartner c]

/-- After the ignorable characters comes a cased letter. -/
def casedAhead (text : Text) : Bool :=
  match text.dropWhile isCaseIgnorable with
  | c :: _ => isCased c
  | [] => false

/-- Lower case of a text that stands after `before` (given backwards). A capital sigma with a cased
letter before and none after ends a word. -/
def lowerFrom (before : Text) : Text → Text
  | [] => []
  | c :: rest =>
    (if c = 'Σ' then [if casedAhead before && !casedAhead rest then 'ς' else 'σ']
      else lowerChar c) ++ lowerFrom (c :: before) rest

/-- The text in lower case. -/
def lower (text : Text) : Text :=
  lowerFrom [] text

end SourceSimilarity.Text

namespace SourceSimilarity

/-- The string in lower case. -/
def lowerString (s : String) : String :=
  String.ofList (Text.lower s.toList)

end SourceSimilarity
