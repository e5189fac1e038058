import CompileServer.Json.Printer
import CompileServer.Toml.Document

/-!
# Writing configuration documents

Every table that holds values of its own, or nothing at all, gets a section with a
header.  A text is quoted in the first of several ways that needs no escapes, and a
list with more than one item takes a line for every item.
-/

namespace CompileServer.Toml

/-- The longest run of a character in a text. -/
def longestRun (c : Char) (cs : List Char) : Nat :=
  (cs.foldl (fun (longest, current) d =>
    let current := if d = c then current + 1 else 0
    (max longest current, current)) (0, 0)).1

/-- Whether a character can only be written as an escape. -/
def needsEscape (c : Char) : Bool :=
  c ≠ '\t' && c ≠ '\n' && (c.toNat < 0x20 || c.toNat = 0x7f)

/-- How a text is quoted. -/
inductive Style where
  | basic
  | literal
  | longBasic
  | longLiteral
deriving DecidableEq, Repr

/-- Whether a style spreads a text over lines. -/
def Style.isLong : Style → Bool
  | .longBasic => true
  | .longLiteral => true
  | _ => false

/-- The style for a text: the first of basic, literal, long basic and long literal that
needs no escapes, else one with escapes. -/
def styleFor (cs : List Char) : Style :=
  let hasLineEnd := cs.contains '\n'
  let hasControl := cs.any needsEscape
  let hasBackslash := cs.contains '\x5c'
  let doubles := longestRun '\x22' cs
  let singles := longestRun '\x27' cs
  if !hasControl && !hasBackslash && doubles = 0 && !hasLineEnd then .basic
  else if !hasControl && singles = 0 && !hasLineEnd then .literal
  else if !hasControl && !hasBackslash && doubles ≤ 2 then .longBasic
  else if !hasControl && singles ≤ 2 then .longLiteral
  else if hasLineEnd then .longBasic
  else .basic

/-- A number below 65536 as four capital digits in base sixteen. -/
def fourCapitalDigits (n : Nat) : List Char :=
  (Json.fourHexDigits n).map Char.toUpper

/-- The characters of a text with escapes; `quotes` counts the double quotes just written,
of which a long text may have two in a row. -/
def writeEscaped (long : Bool) : Nat → List Char → List Char
  | _, [] => []
  | quotes, c :: rest =>
    if c = '\x22' then
      if long && quotes < 2 then c :: writeEscaped long (quotes + 1) rest
      else '\x5c' :: '\x22' :: writeEscaped long 0 rest
    else if c = '\n' && long then c :: writeEscaped long 0 rest
    else
      let written :=
        if c = '\x08' then ['\x5c', 'b']
        else if c = '\t' then ['\x5c', 't']
        else if c = '\n' then ['\x5c', 'n']
        else if c = '\x0c' then ['\x5c', 'f']
        else if c = '\r' then ['\x5c', 'r']
        else if c = '\x5c' then ['\x5c', '\x5c']
        else if c.toNat < 0x20 || c.toNat = 0x7f then '\x5c' :: 'u' :: fourCapitalDigits c.toNat
        else [c]
      written ++ writeEscaped long 0 rest

/-- The quotes around a text. -/
def Style.quotes : Style → List Char
  | .basic => ['\x22']
  | .literal => ['\x27']
  | .longBasic => ['\x22', '\x22', '\x22']
  | .longLiteral => ['\x27', '\x27', '\x27']

/-- A quoted text. -/
def writeString (text : String) : List Char :=
  let cs := text.toList
  let style := styleFor cs
  let lineEnd := if style.isLong && cs.contains '\n' then ['\n'] else []
  let body := match style with
    | .basic => writeEscaped false 0 cs
    | .longBasic => writeEscaped true 0 cs
    | _ => cs
  style.quotes ++ lineEnd ++ body ++ style.quotes

/-- A key, quoted if it has to be. -/
def writeKey (key : String) : List Char :=
  let cs := key.toList
  if !cs.isEmpty && cs.all isKeyChar then cs else '\x22' :: writeEscaped false 0 cs ++ ['\x22']

mutual

/-- A value on the line of its key. -/
def writeValue : Value → List Char
  | .str text => writeString text
  | .int value => intDigits value
  | .float value => value.write .document
  | .bool true => "true".toList
  | .bool false => "false".toList
  | .moment text => text.toList
  | .arr [] => ['[', ']']
  | .arr [item] => '[' :: writeValue item ++ [']']
  | .arr (item :: rest) => '[' :: '\n' :: writeItems (item :: rest) ++ [']']
  | .table entries => '\x7b' :: ' ' :: writeEntries entries ++ ['\x7d']

/-- The items of a list, each on a line of its own. -/
def writeItems : List Value → List Char
  | [] => []
  | item :: rest => "    ".toList ++ writeValue item ++ ',' :: '\n' :: writeItems rest

/-- The entries of a table between braces. -/
def writeEntries : List (String × Value) → List Char
  | [] => []
  | [(key, value)] => writeKey key ++ " = ".toList ++ writeValue value ++ [' ']
  | (key, value) :: rest =>
    writeKey key ++ " = ".toList ++ writeValue value ++ ", ".toList ++ writeEntries rest

end

/-- Whether a value gets a section of its own. -/
def Value.isTable : Value → Bool
  | .table _ => true
  | _ => false

/-- The lines of the values that get no sections. -/
def writeLines (entries : Table) : List Char :=
  (entries.filter fun entry => !entry.2.isTable).flatMap fun entry =>
    writeKey entry.1 ++ " = ".toList ++ writeValue entry.2 ++ ['\n']

/-- The header of a section. -/
def writeHeader (path : List String) : List Char :=
  '[' :: ['.'].intercalate (path.map writeKey) ++ [']', '\n']

/-- The section of the table at a path, if it has one. -/
def writeSection (path : List String) (entries : Table) : List (List Char) :=
  if entries.isEmpty || entries.any fun entry => !entry.2.isTable then
    [(if path.isEmpty then [] else writeHeader path) ++ writeLines entries]
  else []

mutual

/-- The sections of a value at a path. -/
def sectionsOf (path : List String) : Value → List (List Char)
  | .table entries => writeSection path entries ++ sectionsOfEntries path entries
  | _ => []

/-- The sections of entries of the table at a path. -/
def sectionsOfEntries (path : List String) : List (String × Value) → List (List Char)
  | [] => []
  | (key, value) :: rest => sectionsOf (path ++ [key]) value ++ sectionsOfEntries path rest

end

/-- The text of a document. -/
def print (table : Table) : String :=
  String.ofList (['\n'].intercalate (sectionsOf [] (.table table)))

end CompileServer.Toml
