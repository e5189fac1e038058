import CompileServer.Toml.Quoted
import CompileServer.Toml.Scalar

/-!
# Reading configuration documents

A document is read line by line: a header opens a table, every other line adds a
value to the table that was opened last.  A document with any fault is refused.
-/

namespace CompileServer.Toml

/-- Skips the blanks of a line. -/
def skipBlanks (cs : List Char) : List Char :=
  cs.dropWhile isBlank

/-- Skips a comment, if one stands first. -/
def skipComment : List Char → List Char
  | '#' :: rest => rest.dropWhile isPlain
  | cs => cs

/-- What follows the rest of a line that holds nothing more. -/
def finishLine (cs : List Char) : Option (List Char) :=
  match skipComment (skipBlanks cs) with
  | [] => some []
  | rest => dropLineEnd rest

/-- Skips blanks, comments and line ends inside a value. -/
def skipSpace : Nat → List Char → List Char
  | 0, cs => cs
  | fuel + 1, cs =>
    match skipBlanks cs with
    | '#' :: rest =>
      match dropLineEnd (skipComment ('#' :: rest)) with
      | some after => skipSpace fuel after
      | none => skipComment ('#' :: rest)
    | rest =>
      match dropLineEnd rest with
      | some after => skipSpace fuel after
      | none => rest

/-- Whether a character may stand in a key without quotes. -/
def isKeyChar (c : Char) : Bool :=
  c.isAlphanum || c = '_' || c = '-'

/-- Reads one part of a key. -/
def scanKeyPart : List Char → Option (String × List Char)
  | '\x22' :: '\x22' :: '\x22' :: _ => none
  | '\x27' :: '\x27' :: '\x27' :: _ => none
  | '\x22' :: rest =>
    (scanBasic (rest.length + 1) rest).map fun (text, after) => (String.ofList text, after)
  | '\x27' :: rest => (scanLiteral rest).map fun (text, after) => (String.ofList text, after)
  | cs =>
    match cs.takeWhile isKeyChar with
    | [] => none
    | name => some (String.ofList name, cs.dropWhile isKeyChar)

/-- The containers that may stand inside each other, and the parts that a key may have. -/
def nestingLimit : Nat := 80

/-- Reads a key of at most `room` parts: the parts before the last dot, the part after it, and
what follows. -/
def scanKeyParts : Nat → List Char → Option ((List String × String) × List Char)
  | 0, _ => none
  | room + 1, cs =>
    match scanKeyPart (skipBlanks cs) with
    | none => none
    | some (part, after) =>
      match skipBlanks after with
      | '.' :: rest =>
        (scanKeyParts room rest).map fun ((path, name), after) => ((part :: path, name), after)
      | rest => some (([], part), rest)

/-- Reads a key: the parts before the last dot, the part after it, and what follows. -/
def scanKey (cs : List Char) : Option ((List String × String) × List Char) :=
  scanKeyParts nestingLimit cs

/-- Whether a character ends a value that is written without quotes. -/
def endsScalar (c : Char) : Bool :=
  isBlank c || c = '\n' || c = '\r' || c = ',' || c = ']' || c = '\x7d' || c = '#'

/-- Reads a value without quotes.  A date and a time may be apart by a blank. -/
def scanScalar (cs : List Char) : Option (Value × List Char) :=
  let word := cs.takeWhile fun c => !endsScalar c
  let rest := cs.dropWhile fun c => !endsScalar c
  let simple := (scalarOf word).map fun value => (value, rest)
  match rest with
  | ' ' :: c :: more =>
    if scanDate word == some [] && c.isDigit then
      let time := (c :: more).takeWhile fun c => !endsScalar c
      (scalarOf (word ++ ' ' :: time)).map fun value =>
        (value, (c :: more).dropWhile fun c => !endsScalar c)
    else simple
  | _ => simple

mutual

/-- Reads a value inside at most `room` more containers. -/
def scanValue (room : Nat) : Nat → List Char → Option (Value × List Char)
  | 0, _ => none
  | fuel + 1, cs =>
    match cs with
    | '\x22' :: rest =>
      (scanText ('\x22' :: rest)).map fun (text, after) => (.str (String.ofList text), after)
    | '\x27' :: rest =>
      (scanText ('\x27' :: rest)).map fun (text, after) => (.str (String.ofList text), after)
    | '[' :: rest =>
      if room = 0 then none
      else (scanItems (room - 1) fuel rest).map fun (items, after) => (.arr items, after)
    | '\x7b' :: rest =>
      if room = 0 then none
      else (scanEntries (room - 1) fuel [] rest).map fun (nodes, after) =>
        (.table (entriesOf nodes), after)
    | other => scanScalar other

/-- Reads the items of a list, after its opening bracket. -/
def scanItems (room : Nat) : Nat → List Char → Option (List Value × List Char)
  | 0, _ => none
  | fuel + 1, cs =>
    match skipSpace cs.length cs with
    | ']' :: rest => some ([], rest)
    | start =>
      match scanValue room fuel start with
      | none => none
      | some (value, after) =>
        match skipSpace after.length after with
        | ']' :: rest => some ([value], rest)
        | ',' :: rest =>
          (scanItems room fuel rest).map fun (values, after) => (value :: values, after)
        | _ => none

/-- Reads the entries of a table between braces, after its opening brace. -/
def scanEntries (room : Nat) : Nat → Nodes → List Char → Option (Nodes × List Char)
  | 0, _, _ => none
  | fuel + 1, nodes, cs =>
    match skipSpace cs.length cs with
    | '\x7d' :: rest => some (nodes, rest)
    | start =>
      match scanKey start with
      | some ((path, name), '=' :: rest) =>
        match scanValue room fuel (skipBlanks rest) with
        | none => none
        | some (value, after) =>
          match Nodes.add path name value nodes with
          | none => none
          | some nodes =>
            match skipSpace after.length after with
            | '\x7d' :: rest => some (nodes, rest)
            | ',' :: rest => scanEntries room fuel nodes rest
            | _ => none
      | _ => none

end

/-- A document as far as it was read: its entries and the header that holds. -/
structure Reading where
  nodes : Nodes
  header : List String

/-- Reads a header, after its opening bracket. -/
def scanHeader (reading : Reading) (cs : List Char) : Option (Reading × List Char) :=
  match cs with
  | '[' :: rest =>
    match scanKey rest with
    | some ((path, name), ']' :: ']' :: after) => do
      let nodes ← Nodes.changeAt (Nodes.openElement name) path reading.nodes
      let after ← finishLine after
      some (⟨nodes, path ++ [name]⟩, after)
    | _ => none
  | rest =>
    match scanKey rest with
    | some ((path, name), ']' :: after) => do
      let nodes ← Nodes.changeAt (Nodes.openTable name) path reading.nodes
      let after ← finishLine after
      some (⟨nodes, path ++ [name]⟩, after)
    | _ => none

/-- Reads a line that adds a value. -/
def scanEntry (reading : Reading) (cs : List Char) : Option (Reading × List Char) :=
  match scanKey cs with
  | some ((path, name), '=' :: rest) => do
    let (value, after) ← scanValue nestingLimit (rest.length + 1) (skipBlanks rest)
    let nodes ← Nodes.changeAt (Nodes.add path name value) reading.header reading.nodes
    let after ← finishLine after
    some ({ reading with nodes := nodes }, after)
  | _ => none

/-- Reads lines to the end of the document. -/
def scanLinesFrom : Nat → Reading → List Char → Option Nodes
  | 0, _, _ => none
  | fuel + 1, reading, cs =>
    match skipBlanks cs with
    | [] => some reading.nodes
    | '[' :: rest =>
      match scanHeader reading rest with
      | some (reading, after) => scanLinesFrom fuel reading after
      | none => none
    | start =>
      match finishLine start with
      | some after => scanLinesFrom fuel reading after
      | none =>
        match scanEntry reading start with
        | some (reading, after) => scanLinesFrom fuel reading after
        | none => none

/-- The text without the mark of its byte order. -/
def dropMark : List Char → List Char
  | '\ufeff' :: rest => rest
  | cs => cs

/-- The table of a document; none if the document has a fault. -/
def parse? (text : String) : Option Table :=
  let cs := dropMark text.toList
  (scanLinesFrom (cs.length + 1) ⟨[], []⟩ cs).map entriesOf

end CompileServer.Toml
