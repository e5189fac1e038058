import CompileServer.Toml.Value

/-!
# Quoted texts of configuration documents

Four ways to quote a text: with or without escapes, on one line or over many.
-/

namespace CompileServer.Toml

/-- The blanks within a line. -/
def isBlank (c : Char) : Bool :=
  c = ' ' || c = '\t'

/-- Whether a character may stand in a comment or a text as it is. -/
def isPlain (c : Char) : Bool :=
  c = '\t' || (0x20 ≤ c.toNat && c.toNat ≠ 0x7f)

/-- A line end that stands first, as it is written, and what follows it. -/
def splitLineEnd : List Char → Option (List Char × List Char)
  | '\n' :: rest => some (['\n'], rest)
  | '\r' :: '\n' :: rest => some (['\r', '\n'], rest)
  | _ => none

/-- What follows a line end, if one stands first. -/
def dropLineEnd (cs : List Char) : Option (List Char) :=
  (splitLineEnd cs).map Prod.snd

/-- A number in base sixteen of exactly the given number of digits, and what follows it. -/
def hexNumber : Nat → List Char → Option (Nat × List Char)
  | 0, cs => some (0, cs)
  | _ + 1, [] => none
  | n + 1, c :: rest => do
    let d ← if c.isDigit then some (c.toNat - '0'.toNat)
      else if 'a' ≤ c && c ≤ 'f' then some (c.toNat - 'a'.toNat + 10)
      else if 'A' ≤ c && c ≤ 'F' then some (c.toNat - 'A'.toNat + 10)
      else none
    let (low, after) ← hexNumber n rest
    some (d * Nat.pow 16 n + low, after)

/-- The character with the given code, if there is one. -/
def charOf (code : Nat) : Option Char :=
  if code < 0xd800 || (0xdfff < code && code < 0x110000) then some (Char.ofNat code) else none

/-- The character of an escape, after its backslash, and what follows it. -/
def scanEscape : List Char → Option (Char × List Char)
  | 'b' :: rest => some ('\x08', rest)
  | 't' :: rest => some ('\t', rest)
  | 'n' :: rest => some ('\n', rest)
  | 'f' :: rest => some ('\x0c', rest)
  | 'r' :: rest => some ('\r', rest)
  | 'e' :: rest => some ('\x1b', rest)
  | '\x22' :: rest => some ('\x22', rest)
  | '\x5c' :: rest => some ('\x5c', rest)
  | 'x' :: rest => do
    let (code, after) ← hexNumber 2 rest
    some (← charOf code, after)
  | 'u' :: rest => do
    let (code, after) ← hexNumber 4 rest
    some (← charOf code, after)
  | 'U' :: rest => do
    let (code, after) ← hexNumber 8 rest
    some (← charOf code, after)
  | _ => none

/-- Puts characters in front of what was read after them. -/
def prepend (front : List Char) (found : Option (List Char × List Char)) :
    Option (List Char × List Char) :=
  found.map fun (text, after) => (front ++ text, after)

/-- Reads a text on one line with escapes, after its opening quote. -/
def scanBasic : Nat → List Char → Option (List Char × List Char)
  | 0, _ => none
  | _ + 1, [] => none
  | fuel + 1, c :: rest =>
    if c = '\x22' then some ([], rest)
    else if c = '\x5c' then
      match scanEscape rest with
      | some (escaped, after) => prepend [escaped] (scanBasic fuel after)
      | none => none
    else if isPlain c then prepend [c] (scanBasic fuel rest)
    else none

/-- Reads a text on one line without escapes, after its opening quote. -/
def scanLiteral : List Char → Option (List Char × List Char)
  | [] => none
  | c :: rest =>
    if c = '\x27' then some ([], rest)
    else if isPlain c then prepend [c] (scanLiteral rest)
    else none

/-- The quotes that a text over many lines may end in, before the three that close it, and
what follows those; none if the text goes on. -/
def closingQuotes (quote : Char) (cs : List Char) : Option (List Char × List Char) :=
  let count := min 5 (cs.takeWhile (· = quote)).length
  if count < 3 then none else some (List.replicate (count - 3) quote, cs.drop count)

/-- Skips blanks and line ends. -/
def skipBlankLines : List Char → List Char
  | '\r' :: '\n' :: rest => skipBlankLines rest
  | c :: rest => if c = '\n' || isBlank c then skipBlankLines rest else c :: rest
  | [] => []

/-- What follows an escaped line end and the blanks after it, if one stands first. -/
def dropEscapedLineEnd (cs : List Char) : Option (List Char) :=
  (dropLineEnd (cs.dropWhile isBlank)).map skipBlankLines

/-- Reads a text over many lines, after its opening quotes; its line ends are kept. -/
def scanLines (quote : Char) (escapes : Bool) : Nat → List Char → Option (List Char × List Char)
  | 0, _ => none
  | _ + 1, [] => none
  | fuel + 1, c :: rest =>
    match closingQuotes quote (c :: rest), splitLineEnd (c :: rest) with
    | some closing, _ => some closing
    | none, some (lineEnd, after) => prepend lineEnd (scanLines quote escapes fuel after)
    | none, none =>
      if c = '\x5c' && escapes then
        match dropEscapedLineEnd rest with
        | some after => scanLines quote escapes fuel after
        | none =>
          match scanEscape rest with
          | some (escaped, after) => prepend [escaped] (scanLines quote escapes fuel after)
          | none => none
      else if isPlain c then prepend [c] (scanLines quote escapes fuel rest)
      else none

/-- Reads a text over many lines, without the line end right after its opening quotes. -/
def scanLongText (quote : Char) (escapes : Bool) (cs : List Char) :
    Option (List Char × List Char) :=
  let body := (dropLineEnd cs).getD cs
  scanLines quote escapes (body.length + 1) body

/-- Reads a quoted text of any kind. -/
def scanText : List Char → Option (List Char × List Char)
  | '\x22' :: '\x22' :: '\x22' :: rest => scanLongText '\x22' true rest
  | '\x27' :: '\x27' :: '\x27' :: rest => scanLongText '\x27' false rest
  | '\x22' :: rest => scanBasic (rest.length + 1) rest
  | '\x27' :: rest => scanLiteral rest
  | _ => none

end CompileServer.Toml
