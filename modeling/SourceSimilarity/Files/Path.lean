import SourceSimilarity.Text.Case

/-!
# Paths

A path is compared and taken apart by its components: repeated separators and inner `.` do not
count. What a path prints as is the path as it was given.
-/

namespace SourceSimilarity.Files

/-- A path as it was given. -/
abbrev Path := String

/-- A step of a path. -/
inductive Component where
  | root
  | here
  | parent
  | name (text : Text)
deriving DecidableEq, Repr

namespace Component

/-- Where a component stands among the kinds. -/
def rank : Component → Nat
  | root => 0
  | here => 1
  | parent => 2
  | name _ => 3

/-- The order of components: by kind, and names by their characters. -/
def compare : Component → Component → Ordering
  | name a, name b => Ord.compare (String.ofList a) (String.ofList b)
  | a, b => Ord.compare a.rank b.rank

end Component

namespace Path

/-- A part that leads nowhere: nothing between two separators, or a `.`. -/
def isIdle (part : Text) : Bool :=
  part == [] || part == ['.']

/-- The component that a part stands for. -/
def componentOf (part : Text) : Component :=
  if part = ['.', '.'] then .parent else .name part

/-- The components of parts inside a path, each with the parts behind it. -/
def located : List Text → List (Component × List Text)
  | [] => []
  | part :: rest =>
    if isIdle part then located rest else (componentOf part, rest) :: located rest

/-- The components of a path, each with the parts behind it. A `.` counts in front only. -/
def locate (path : Path) : List (Component × List Text) :=
  match Text.splitAt '/' path.toList with
  | [] => []
  | [[]] => []
  | [] :: rest => (.root, rest) :: located rest
  | first :: rest =>
    if first = ['.'] then (.here, rest) :: located rest else located (first :: rest)

/-- The components of a path. -/
def components (path : Path) : List Component :=
  (locate path).map Prod.fst

/-- The last component, if it is a name. -/
def fileName? (path : Path) : Option Text :=
  match (components path).getLast? with
  | some (.name text) => some text
  | _ => none

/-- What follows the last point of a file name. A name that starts with its only point has no
extension. -/
def extension? (path : Path) : Option String :=
  match fileName? path with
  | none => none
  | some name =>
    let after := (name.reverse.takeWhile (· != '.')).reverse
    let before := name.length - after.length
    if before ≤ 1 then none else some (String.ofList after)

/-- The order of paths, component by component. -/
def compareComponents : List Component → List Component → Ordering
  | [], [] => .eq
  | [], _ :: _ => .lt
  | _ :: _, [] => .gt
  | a :: as, b :: bs => (a.compare b).then (compareComponents as bs)

/-- `a` does not come after `b`. -/
def precedes (a b : Path) : Bool :=
  (compareComponents (components a) (components b)).isLE

/-- The path of an entry of a directory. -/
def join (directory : Path) (entry : String) : Path :=
  if directory.isEmpty then entry
  else if directory.endsWith "/" then directory ++ entry
  else directory ++ "/" ++ entry

/-- The parts with a separator between any two. -/
def joinParts : List Text → Text
  | [] => []
  | [part] => part
  | part :: rest => part ++ '/' :: joinParts rest

/-- The parts of a path behind the components of `root`, if the path goes through them. -/
def partsBehind : List Component → List (Component × List Text) → Option (List Text)
  | [], _ => none
  | _ :: _, [] => none
  | [a], (b, rest) :: _ => if a = b then some rest else none
  | a :: as, (b, _) :: more => if a = b then partsBehind as more else none

/-- The parts without those at the end that lead nowhere. -/
def dropIdleEnd (parts : List Text) : List Text :=
  (parts.reverse.dropWhile isIdle).reverse

/-- The path as seen from `root`, or the path itself if it does not lead through `root`. -/
def relativeTo (root path : Path) : Path :=
  match components root with
  | [] =>
    match Text.splitAt '/' path.toList with
    | first :: rest => String.ofList (joinParts (first :: dropIdleEnd rest))
    | [] => path
  | steps =>
    match partsBehind steps (locate path) with
    | some parts => String.ofList (joinParts (dropIdleEnd (parts.dropWhile isIdle)))
    | none => path

end Path

end SourceSimilarity.Files
