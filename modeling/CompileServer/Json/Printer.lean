import CompileServer.Json.Basic
import CompileServer.Text.Quoted

/-!
# The text of structured values

Two layouts: on one line without blanks, and spread over lines with two blanks
of indentation for every level.
-/

namespace CompileServer.Json

/-- A number below 65536 as four digits in base sixteen. -/
def fourHexDigits (n : Nat) : List Char :=
  let digits := Text.hexDigits n
  List.replicate (4 - digits.length) '0' ++ digits

/-- One character inside a written text: quotes, backslashes and controls are escaped. -/
def escapeChar (c : Char) : List Char :=
  if c = '\x22' then ['\x5c', '\x22']
  else if c = '\x5c' then ['\x5c', '\x5c']
  else if c = '\x08' then ['\x5c', 'b']
  else if c = '\x0c' then ['\x5c', 'f']
  else if c = '\n' then ['\x5c', 'n']
  else if c = '\r' then ['\x5c', 'r']
  else if c = '\t' then ['\x5c', 't']
  else if c.toNat < 0x20 then '\x5c' :: 'u' :: fourHexDigits c.toNat
  else [c]

/-- A text between double quotes. -/
def writeString (text : String) : List Char :=
  '\x22' :: text.toList.flatMap escapeChar ++ ['\x22']

mutual

/-- The value on one line, without blanks. -/
def write : Json → List Char
  | .null => "null".toList
  | .bool true => "true".toList
  | .bool false => "false".toList
  | .num value => value.write .document
  | .str text => writeString text
  | .arr items => '[' :: writeItems items ++ [']']
  | .obj members => '\x7b' :: writeMembers members ++ ['\x7d']

/-- The items, separated by commas. -/
def writeItems : List Json → List Char
  | [] => []
  | [item] => write item
  | item :: rest => write item ++ ',' :: writeItems rest

/-- The members, separated by commas. -/
def writeMembers : List (String × Json) → List Char
  | [] => []
  | [(key, value)] => writeString key ++ ':' :: write value
  | (key, value) :: rest => writeString key ++ ':' :: write value ++ ',' :: writeMembers rest

end

/-- The value on one line, without blanks. -/
def compact (value : Json) : String :=
  String.ofList (write value)

/-- A line end and the indentation of the line after it. -/
def lineBreak (depth : Nat) : List Char :=
  '\n' :: List.replicate (2 * depth) ' '

mutual

/-- The value spread over lines, inside `depth` enclosing containers. -/
def writeSpread (depth : Nat) : Json → List Char
  | .arr [] => ['[', ']']
  | .arr (item :: rest) =>
    '[' :: writeSpreadItems (depth + 1) (item :: rest) ++ lineBreak depth ++ [']']
  | .obj [] => ['\x7b', '\x7d']
  | .obj (member :: rest) =>
    '\x7b' :: writeSpreadMembers (depth + 1) (member :: rest) ++ lineBreak depth ++ ['\x7d']
  | other => write other

/-- The items, each on lines of its own. -/
def writeSpreadItems (depth : Nat) : List Json → List Char
  | [] => []
  | [item] => lineBreak depth ++ writeSpread depth item
  | item :: rest =>
    lineBreak depth ++ writeSpread depth item ++ ',' :: writeSpreadItems depth rest

/-- The members, each on lines of its own. -/
def writeSpreadMembers (depth : Nat) : List (String × Json) → List Char
  | [] => []
  | [(key, value)] => lineBreak depth ++ writeString key ++ ':' :: ' ' :: writeSpread depth value
  | (key, value) :: rest =>
    lineBreak depth ++ writeString key ++ ':' :: ' ' :: writeSpread depth value
      ++ ',' :: writeSpreadMembers depth rest

end

/-- The value spread over lines. -/
def spread (value : Json) : String :=
  String.ofList (writeSpread 0 value)

end CompileServer.Json
