/-!
# JSON

The values that are written as JSON, and their text: one member a line, indented by two spaces.
-/

namespace SourceSimilarity.Json

/-- A JSON value. A number is given by its text. -/
inductive Value where
  | null
  | number (text : String)
  | string (text : String)
  | array (elements : List Value)
  | object (members : List (String × Value))

/-- A digit of an escape, in lower case. -/
def hexDigit (n : Nat) : Char :=
  if n < 10 then Char.ofNat (48 + n) else Char.ofNat (87 + n)

/-- What stands in a string for one character. -/
def escapeChar (c : Char) : List Char :=
  if c = '"' then ['\\', '"']
  else if c = '\\' then ['\\', '\\']
  else if c = '\n' then ['\\', 'n']
  else if c = '\r' then ['\\', 'r']
  else if c = '\t' then ['\\', 't']
  else if c = '\x08' then ['\\', 'b']
  else if c = '\x0c' then ['\\', 'f']
  else if c.toNat < 32 then ['\\', 'u', '0', '0', hexDigit (c.toNat / 16), hexDigit (c.toNat % 16)]
  else [c]

/-- A string between quotes. -/
def quote (s : String) : String :=
  String.ofList ('"' :: s.toList.flatMap escapeChar ++ ['"'])

/-- The spaces in front of a line. -/
def indent (depth : Nat) : String :=
  String.ofList (List.replicate (2 * depth) ' ')

namespace Value

/-- A natural number. -/
def ofNat (n : Nat) : Value :=
  number (String.ofList (Nat.toDigits 10 n))

/-- A number text, or null where there is none. -/
def ofNumber? : Option String → Value
  | some text => number text
  | none => null

mutual

/-- The text of a value that stands at a depth. -/
def render (depth : Nat) : Value → String
  | null => "null"
  | number text => text
  | string text => quote text
  | array [] => "[]"
  | array elements => "[\n" ++ renderElements (depth + 1) elements ++ "\n" ++ indent depth ++ "]"
  | object [] => "\x7b\x7d"
  | object members =>
    "\x7b\n" ++ renderMembers (depth + 1) members ++ "\n" ++ indent depth ++ "\x7d"

/-- Elements, one after the other. -/
def renderElements (depth : Nat) : List Value → String
  | [] => ""
  | [value] => indent depth ++ render depth value
  | value :: rest => indent depth ++ render depth value ++ ",\n" ++ renderElements depth rest

/-- Members with their names. -/
def renderMembers (depth : Nat) : List (String × Value) → String
  | [] => ""
  | [(name, value)] => indent depth ++ quote name ++ ": " ++ render depth value
  | (name, value) :: rest =>
    indent depth ++ quote name ++ ": " ++ render depth value ++ ",\n" ++ renderMembers depth rest

end

/-- The text of a value. -/
def text (value : Value) : String :=
  render 0 value

end Value

end SourceSimilarity.Json
