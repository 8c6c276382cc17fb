import SourceSimilarity.Decimal.Reading

/-!
# Settings text

The part of TOML that settings are written in: assignments of integers, floats, strings and arrays
to plain keys. Tables, dotted keys, dates and truth values have no place in settings, so a text with
any of them is refused like a malformed one.
-/

namespace SourceSimilarity.Settings

/-- A value that can be assigned. -/
inductive Value where
  | integer (n : Int)
  | float (x : Float)
  | string (text : Text)
  | array (elements : List Value)

/-- Read something from the front of a text and give what follows it. -/
abbrev Read (α : Type) := Text → Option (α × Text)

/-! ## Blanks, comments and line ends -/

/-- A blank inside a line. -/
def isInlineBlank (c : Char) : Bool :=
  c == ' ' || c == '\t'

/-- A character that may stand in a comment or a quoted text: no control character but the tab. -/
def isPrintable (c : Char) : Bool :=
  c == '\t' || (32 ≤ c.toNat && c.toNat != 127)

/-- The text without the blanks in front. -/
def skipBlanks (text : Text) : Text :=
  text.dropWhile isInlineBlank

/-- The text without the comment in front, if one starts there. -/
def skipComment (text : Text) : Text :=
  match text with
  | '#' :: rest => rest.dropWhile isPrintable
  | _ => text

/-- What follows the end of a line, which may also be the end of the text. -/
def afterLineEnd? : Text → Option Text
  | [] => some []
  | '\n' :: rest => some rest
  | '\r' :: '\n' :: rest => some rest
  | _ => none

/-- What follows the rest of a line on which nothing but a comment is left. -/
def afterLine? (text : Text) : Option Text :=
  afterLineEnd? (skipComment (skipBlanks text))

/-- The text without blanks, comments and line ends in front, looking at `fuel` lines. -/
def skipLines : Nat → Text → Text
  | 0, text => text
  | fuel + 1, text =>
    let rest := skipComment (skipBlanks text)
    match rest with
    | '\n' :: more => skipLines fuel more
    | '\r' :: '\n' :: more => skipLines fuel more
    | _ => rest

/-- The text without blanks, comments and line ends in front. -/
def skipGap (text : Text) : Text :=
  skipLines (text.length + 1) text

/-! ## Strings -/

/-- The value of a hexadecimal digit. -/
def hexValue? (c : Char) : Option Nat :=
  if c.isDigit then some (c.toNat - 48)
  else if 'a' ≤ c ∧ c ≤ 'f' then some (c.toNat - 87)
  else if 'A' ≤ c ∧ c ≤ 'F' then some (c.toNat - 55)
  else none

/-- The character whose code point is given by hexadecimal digits. -/
def codePoint? (digits : Text) : Option Char :=
  match digits.mapM hexValue? with
  | none => none
  | some values =>
    let n := values.foldl (fun n v => n * 16 + v) 0
    if n.isValidChar then some (Char.ofNat n) else none

/-- The character that a backslash and one letter stand for. -/
def escaped? (c : Char) : Option Char :=
  if c = 'b' then some '\x08'
  else if c = 't' then some '\t'
  else if c = 'n' then some '\n'
  else if c = 'f' then some '\x0c'
  else if c = 'r' then some '\r'
  else if c = '"' then some '"'
  else if c = '\\' then some '\\'
  else none

/-- The character that an escape behind a backslash stands for. -/
def escape? : Read Char
  | 'u' :: rest =>
    if rest.length < 4 then none else (codePoint? (rest.take 4)).map fun c => (c, rest.drop 4)
  | 'U' :: rest =>
    if rest.length < 8 then none else (codePoint? (rest.take 8)).map fun c => (c, rest.drop 8)
  | c :: rest => (escaped? c).map fun c => (c, rest)
  | [] => none

/-- Put a character in front of a text that was read. -/
def consRead (c : Char) (read : Option (Text × Text)) : Option (Text × Text) :=
  read.map fun (text, rest) => (c :: text, rest)

/-- The inside of a string between double quotes, `fuel` characters of it at most. -/
def basicTail : Nat → Read Text
  | _, '"' :: rest => some ([], rest)
  | fuel + 1, '\\' :: rest =>
    match escape? rest with
    | some (c, rest) => consRead c (basicTail fuel rest)
    | none => none
  | fuel + 1, c :: rest => if isPrintable c then consRead c (basicTail fuel rest) else none
  | _, _ => none

/-- The inside of a string between single quotes, in which nothing is escaped. -/
def literalTail : Read Text
  | [] => none
  | '\'' :: rest => some ([], rest)
  | c :: rest => if isPrintable c then consRead c (literalTail rest) else none

/-- What follows the first line end, which does not count at the front of a string of several lines.
-/
def dropFirstLineEnd : Text → Text
  | '\n' :: rest => rest
  | '\r' :: '\n' :: rest => rest
  | text => text

/-- What follows the closing quotes of a string of several lines, and the quotes directly before
them that belong to the string: up to two may. -/
def closingQuotes? (quote : Char) (text : Text) : Option (Text × Text) :=
  let count := (text.takeWhile (· == quote)).length
  if count < 3 then none
  else
    let extra := min (count - 3) 2
    some (List.replicate extra quote, text.drop (3 + extra))

/-- The text without blanks and line ends in front. -/
def skipEmptyLines : Text → Text
  | '\n' :: rest => skipEmptyLines rest
  | '\r' :: '\n' :: rest => skipEmptyLines rest
  | c :: rest => if isInlineBlank c then skipEmptyLines rest else c :: rest
  | [] => []

/-- Behind a backslash at the end of a line, the text from the next character that is no blank on.
-/
def afterContinuation? (text : Text) : Option Text :=
  (afterLineEnd? (skipBlanks text)).map skipEmptyLines

/-- The inside of a string between three double quotes, `fuel` characters of it at most. -/
def basicLinesTail : Nat → Read Text
  | 0, _ => none
  | fuel + 1, text =>
    match closingQuotes? '"' text with
    | some found => some found
    | none =>
      match text with
      | [] => none
      | '\\' :: rest =>
        match afterContinuation? rest with
        | some rest => basicLinesTail fuel rest
        | none =>
          match escape? rest with
          | some (c, rest) => consRead c (basicLinesTail fuel rest)
          | none => none
      | '\n' :: rest => consRead '\n' (basicLinesTail fuel rest)
      | '\r' :: '\n' :: rest => consRead '\n' (basicLinesTail fuel rest)
      | c :: rest => if isPrintable c then consRead c (basicLinesTail fuel rest) else none

/-- The inside of a string between three single quotes, `fuel` characters of it at most. -/
def literalLinesTail : Nat → Read Text
  | 0, _ => none
  | fuel + 1, text =>
    match closingQuotes? '\'' text with
    | some found => some found
    | none =>
      match text with
      | [] => none
      | '\n' :: rest => consRead '\n' (literalLinesTail fuel rest)
      | '\r' :: '\n' :: rest => consRead '\n' (literalLinesTail fuel rest)
      | c :: rest => if isPrintable c then consRead c (literalLinesTail fuel rest) else none

/-- A string on one line. -/
def lineString? : Read Text
  | '"' :: rest => basicTail rest.length rest
  | '\'' :: rest => literalTail rest
  | _ => none

/-- A string of any kind. -/
def string? : Read Text
  | '"' :: '"' :: '"' :: rest => basicLinesTail (rest.length + 1) (dropFirstLineEnd rest)
  | '\'' :: '\'' :: '\'' :: rest => literalLinesTail (rest.length + 1) (dropFirstLineEnd rest)
  | text => lineString? text

/-! ## Numbers -/

/-- The largest integer of a settings text. -/
def maxInteger : Nat :=
  0x7fffffffffffffff

/-- Digits of a base in which single underscores may stand between two digits: the digits, and what
follows them. -/
def digitGroups (isDigit : Char → Bool) : Text → Text × Text
  | [] => ([], [])
  | '_' :: c :: rest =>
    if isDigit c then
      let (digits, after) := digitGroups isDigit rest
      (c :: digits, after)
    else ([], '_' :: c :: rest)
  | c :: rest =>
    if isDigit c then
      let (digits, after) := digitGroups isDigit rest
      (c :: digits, after)
    else ([], c :: rest)

/-- A group of digits that starts with a digit. -/
def digits? (isDigit : Char → Bool) : Read Text
  | c :: rest => if isDigit c then some (digitGroups isDigit (c :: rest)) else none
  | [] => none

/-- The value of digits of a base. -/
def valueIn (base : Nat) (digits : Text) : Nat :=
  digits.foldl (fun n c => n * base + (hexValue? c).getD 0) 0

/-- A positive integer with a base mark. -/
def basedInteger? (base : Nat) (text : Text) : Option (Value × Text) :=
  match digits? (fun c => ((hexValue? c).any (· < base))) text with
  | some (digits, rest) =>
    let n := valueIn base digits
    if n ≤ maxInteger then some (.integer n, rest) else none
  | none => none

/-- The digits before a point or at the end: no zero in front of others. -/
def wholePart? : Read Text
  | '0' :: rest => some (['0'], rest)
  | text => digits? Char.isDigit text

/-- A fraction: a point and digits. -/
def fraction? : Read Text
  | '.' :: rest => digits? Char.isDigit rest
  | _ => none

/-- A power of ten: its mark, an optional sign and digits. -/
def power? : Read Int
  | c :: rest =>
    if c = 'e' ∨ c = 'E' then
      let (negative, rest) := Decimal.takeSign rest
      (digits? Char.isDigit rest).map fun (digits, after) =>
        let n := Decimal.digitsValue digits
        (if negative then -(n : Int) else n, after)
    else none
  | [] => none

/-- A float as it is read: a number too large for any float is refused. -/
def floatValue? (negative : Bool) (digits : Text) (exponent : Int) : Option Value :=
  let x := Decimal.withSign negative (Decimal.nearestFloat (Decimal.digitsValue digits) exponent)
  if x == 1.0 / 0.0 then none else some (.float x)

/-- A number in decimal notation behind its sign. -/
def decimal? (negative : Bool) (text : Text) : Option (Value × Text) :=
  match wholePart? text with
  | none => none
  | some (whole, rest) =>
    match fraction? rest with
    | some (fraction, rest) =>
      let (exponent, rest) := (power? rest).getD (0, rest)
      (floatValue? negative (whole ++ fraction) (exponent - (fraction.length : Int))).map
        fun value => (value, rest)
    | none =>
      match power? rest with
      | some (exponent, rest) =>
        (floatValue? negative whole exponent).map fun value => (value, rest)
      | none =>
        let n := Decimal.digitsValue whole
        if n ≤ maxInteger + (if negative then 1 else 0) then
          some (.integer (if negative then -(n : Int) else n), rest)
        else none

/-- A number: with a base mark, infinite, not a number, or in decimal notation. -/
def number? : Read Value
  | '0' :: 'x' :: rest => basedInteger? 16 rest
  | '0' :: 'o' :: rest => basedInteger? 8 rest
  | '0' :: 'b' :: rest => basedInteger? 2 rest
  | text =>
    let (negative, rest) := Decimal.takeSign text
    match rest with
    | 'i' :: 'n' :: 'f' :: rest => some (.float (Decimal.withSign negative (1.0 / 0.0)), rest)
    | 'n' :: 'a' :: 'n' :: rest => some (.float (Decimal.withSign negative (0.0 / 0.0)), rest)
    | _ => decimal? negative rest

/-! ## Values and assignments -/

mutual

/-- A value, with `fuel` values and commas inside at most. -/
def value? : Nat → Read Value
  | 0, _ => none
  | fuel + 1, text =>
    match text with
    | '[' :: rest =>
      (elements? fuel (skipGap rest)).map fun (elements, rest) => (.array elements, rest)
    | c :: _ =>
      if c = '"' ∨ c = '\'' then (string? text).map fun (s, rest) => (.string s, rest)
      else number? text
    | [] => none

/-- The elements of an array up to its end. A comma may stand behind the last one. -/
def elements? : Nat → Read (List Value)
  | 0, _ => none
  | fuel + 1, text =>
    match text with
    | ']' :: rest => some ([], rest)
    | _ =>
      match value? fuel text with
      | none => none
      | some (element, rest) =>
        match skipGap rest with
        | ']' :: rest => some ([element], rest)
        | ',' :: rest =>
          (elements? fuel (skipGap rest)).map fun (elements, rest) => (element :: elements, rest)
        | _ => none

end

/-- A character of a key without quotes. -/
def isKeyChar (c : Char) : Bool :=
  c.isAlphanum || c == '_' || c == '-'

/-- A key, with or without quotes. -/
def key? : Read Text
  | [] => none
  | c :: rest =>
    if isKeyChar c then some ((c :: rest).takeWhile isKeyChar, (c :: rest).dropWhile isKeyChar)
    else lineString? (c :: rest)

/-- An assignment and what follows its line. -/
def assignment? (text : Text) : Option ((String × Value) × Text) :=
  match key? text with
  | none => none
  | some (key, rest) =>
    match skipBlanks rest with
    | '=' :: rest =>
      match value? (rest.length + 1) (skipBlanks rest) with
      | none => none
      | some (value, rest) => (afterLine? rest).map fun rest => ((String.ofList key, value), rest)
    | _ => none

/-- The assignments of a text, `fuel` of them at most. -/
def assignments? : Nat → Text → Option (List (String × Value))
  | 0, _ => none
  | fuel + 1, text =>
    match skipGap text with
    | [] => some []
    | start =>
      match assignment? start with
      | none => none
      | some (first, rest) => (assignments? fuel rest).map (first :: ·)

/-- No key is assigned twice. -/
def hasDistinctKeys : List (String × Value) → Bool
  | [] => true
  | (key, _) :: rest => !(rest.any fun later => later.1 == key) && hasDistinctKeys rest

/-- The assignments of a settings text, which may start with a byte-order mark. -/
def read? (text : Text) : Option (List (String × Value)) :=
  let body := match text with
    | '\ufeff' :: rest => rest
    | _ => text
  match assignments? (body.length + 1) body with
  | some found => if hasDistinctKeys found then some found else none
  | none => none

end SourceSimilarity.Settings
