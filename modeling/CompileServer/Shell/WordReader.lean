import CompileServer.Shell.Token

/-!
# Reading words

A word goes on until a character that separates words, unless quotes or braces are open.
What stands inside of a word, between braces or quotes or as a command of its own, is read
by readers for the inside.
-/

namespace CompileServer.Shell

/-- Whether a character may start the name of a variable. -/
def startsName (c : Char) : Bool :=
  c.isAlpha || c = '_'

/-- Whether a character may stand in the name of a variable. -/
def inName (c : Char) : Bool :=
  c.isAlphanum || c = '_'

/-- Whether a text is the name of a variable. -/
def isName (text : String) : Bool :=
  match text.toList with
  | [] => false
  | c :: rest => startsName c && rest.all inName

/-- Whether a character ends a word unless it is quoted. -/
def endsWord (c : Char) : Bool :=
  [' ', '\t', '\n', ';', '&', '|', '<', '>', '(', ')'].contains c

/-- The parameter that a single character names. -/
def specialParameter? (c : Char) : Option Parameter :=
  match c with
  | '@' => some .arguments
  | '*' => some .joinedArguments
  | '#' => some .argumentCount
  | '?' => some .status
  | '$' => some .process
  | '!' => some .background
  | '-' => some .options
  | c => if c.isDigit then some (.argument (c.toNat - 48)) else none

/-- What some pieces stand in, which decides what ends them and which characters are
special. -/
inductive Enclosure where
  | bare
  /-- The word that names the end of a document. -/
  | delimiter
  /-- Braces outside of quotes. -/
  | braces
  /-- Double quotes, perhaps with braces around them. -/
  | quotes (inBraces : Bool)
  /-- Braces between double quotes. -/
  | quotedBraces
  /-- The text of a document. -/
  | document
  /-- A formula. -/
  | formula
deriving DecidableEq, Repr

namespace Enclosure

/-- Whether texts are quoted. -/
def isQuoted : Enclosure → Bool
  | .bare => false
  | .delimiter => false
  | .braces => false
  | _ => true

/-- Whether there are braces around. -/
def hasBraces : Enclosure → Bool
  | .braces => true
  | .quotedBraces => true
  | .quotes inBraces => inBraces
  | _ => false

/-- Whether an apostrophe and a backslash quote what follows. -/
def quotesSingly (enclosure : Enclosure) : Bool :=
  !enclosure.isQuoted

/-- The enclosure of double quotes that open here, if they do. -/
def openedQuotes? (enclosure : Enclosure) : Option Enclosure :=
  match enclosure with
  | .document => none
  | .formula => none
  | other => some (.quotes other.hasBraces)

/-- Whether a backslash hides the meaning of a character where texts are quoted. -/
def escapes (enclosure : Enclosure) (inDocument : Bool) (c : Char) : Bool :=
  ['\x5c', '\x60', '$'].contains c
    || c = '\x22' && (!inDocument || enclosure.hasBraces)
    || c = '\x7d' && enclosure.hasBraces

/-- The fault of a text that ends too early; in a document quotes need no end. -/
def endFault (enclosure : Enclosure) (inDocument : Bool) : ScriptFault :=
  match enclosure with
  | .formula => .openFormula
  | .braces => .openBrace
  | _ => if inDocument then .openBrace else .openQuote

end Enclosure

/-- Where some commands stand. -/
inductive Setting where
  /-- On a line of the script, with which they end. -/
  | line
  /-- Between keywords or parentheses; there has to be one. -/
  | body
  /-- Where there may be none. -/
  | optional
  /-- After a parenthesis, where there may be none; the other parenthesis is read as well. -/
  | enclosed
deriving DecidableEq, Repr

/-- The readers for what stands inside of something. -/
structure InnerReader where
  pieces : Enclosure → Reading Word
  commands : Setting → Reading Command

/-- A word that is being read, in reverse. -/
structure WordDraft where
  pieces : List Piece
  /-- The characters after the last piece. -/
  chars : List Char
  /-- The number of open parentheses. -/
  depth : Nat

namespace WordDraft

/-- The word of which nothing has been read. -/
def empty : WordDraft :=
  ⟨[], [], 0⟩

/-- Adds a character. -/
def push (draft : WordDraft) (c : Char) : WordDraft :=
  { draft with chars := c :: draft.chars }

/-- Makes a piece of the characters after the last piece. -/
def close (draft : WordDraft) : WordDraft :=
  if draft.chars.isEmpty then draft
  else { draft with pieces := .text draft.chars.reverse :: draft.pieces, chars := [] }

/-- Adds a piece. -/
def add (draft : WordDraft) (piece : Piece) : WordDraft :=
  { draft.close with pieces := piece :: draft.close.pieces }

/-- The word. -/
def word (draft : WordDraft) : Word :=
  draft.close.pieces.reverse

end WordDraft

namespace Reading

/-- Reads up to an apostrophe. -/
def singleQuoted : Reading (List Char) :=
  repeating [] fun found => do
    match ← take with
    | some '\x27' => return .inr found.reverse
    | some c => return .inl (c :: found)
    | none => throw (if (← get).inDocument then .openBrace else .openQuote)

/-- Reads what follows a backslash where texts are quoted. -/
def escapeQuoted (enclosure : Enclosure) (draft : WordDraft) : Reading WordDraft := do
  match (← get).chars with
  | [] => return draft.push '\x5c'
  | c :: _ =>
    let _ ← take
    if enclosure.escapes (← get).inDocument c then return draft.push c
    else return (draft.push '\x5c').push c

/-- Reads what follows a backslash where texts are not quoted. -/
def escapeBare (draft : WordDraft) : Reading WordDraft := do
  match ← take with
  | none => return draft.add (.quoted [.text ['\x5c']])
  | some c => return draft.add (.quoted [.text [c]])

/-- Reads a command up to a backquote, which may stand in it after a backslash. -/
def backquotedText (enclosure : Enclosure) : Reading (List Char) :=
  repeating [] fun found => do
    let _ ← look
    match ← take with
    | some '\x60' => return .inr found.reverse
    | some '\x5c' =>
      match (← get).chars with
      | [] => throw .openBackquote
      | c :: _ =>
        let _ ← take
        if ['\x5c', '\x60', '$'].contains c || c = '\x22' && enclosure.isQuoted then
          return .inl (c :: found)
        else return .inl (c :: '\x5c' :: found)
    | some c => return .inl (c :: found)
    | none => throw .openBackquote

/-- Reads a command after its backquote.  Its lines are counted from its start, and what
follows the command is left out. -/
def backquoted (inner : InnerReader) (enclosure : Enclosure) : Reading Piece := do
  let chars ← backquotedText enclosure
  let command ← within chars (inner.commands .optional)
  return .output command

/-- Reads a name, or the position of an argument. -/
def parameterName : Reading (Option Parameter) := do
  match ← look with
  | none => return none
  | some c =>
    if c.isDigit then
      let digits ← takeWhile Char.isDigit
      return some (.argument (digits.foldl (fun value d => value * 10 + (d.toNat - 48)) 0))
    else if startsName c then return some (.named (String.ofList (← takeWhile inName)))
    else return none

/-- How a letter between a name and a word adjusts a value. -/
def adjustment? (c : Char) : Option Adjustment :=
  match c with
  | '-' => some .orElse
  | '=' => some .orAssign
  | '?' => some .orFail
  | '+' => some .ifThere
  | _ => none

/-- Reads what follows the name of a parameter between braces. -/
def adjusted (inner : InnerReader) (enclosure : Enclosure) (parameter : Parameter) :
    Reading Piece := do
  let within : Enclosure := if enclosure.isQuoted then .quotedBraces else .braces
  let adjust := fun (adjustment : Option Adjustment) (emptyCounts : Bool) => do
    skip
    let word ← inner.pieces within
    match adjustment with
    | some adjustment => return Piece.adjusted parameter adjustment emptyCounts word
    | none => return Piece.malformed
  let cut := fun (mark : Char) (adjustment : Bool → Adjustment) => do
    let _ ← take
    let longest ← takeIf mark
    return Piece.adjusted parameter (adjustment longest) false (← inner.pieces .braces)
  match ← look with
  | some '\x7d' =>
    let _ ← take
    return .value parameter
  | some '#' => cut '#' .cutStart
  | some '%' => cut '%' .cutEnd
  | some ':' =>
    let _ ← take
    match ← look with
    | some '\x7d' =>
      let _ ← take
      let _ ← inner.pieces within
      return .value parameter
    | some c => adjust (adjustment? c) true
    | none => adjust none true
  | some c => adjust (adjustment? c) false
  | none => adjust none false

/-- Reads what follows a sharp after an open brace, which asks for a size or is the name of a
parameter itself. -/
def sizeOrCount (inner : InnerReader) (enclosure : Enclosure) : Reading Piece := do
  let within : Enclosure := if enclosure.isQuoted then .quotedBraces else .braces
  match ← parameterName with
  | some parameter =>
    let isClosed := (← look) = some '\x7d'
    let _ ← inner.pieces within
    return if isClosed then .size parameter else .malformed
  | none =>
    match (← get).chars with
    | c :: '\x7d' :: _ =>
      if c = '\x7d' then adjusted inner enclosure .argumentCount
      else
        let _ ← take
        let _ ← inner.pieces within
        return match specialParameter? c with
          | some parameter => .size parameter
          | none => .malformed
    | _ => adjusted inner enclosure .argumentCount

/-- Reads what follows a dollar sign and an open brace. -/
def braced (inner : InnerReader) (enclosure : Enclosure) : Reading Piece := do
  let malformed := do
    let _ ← inner.pieces (if enclosure.isQuoted then .quotedBraces else .braces)
    return Piece.malformed
  match ← parameterName with
  | some parameter => adjusted inner enclosure parameter
  | none =>
    match ← look with
    | some '#' =>
      let _ ← take
      let _ ← look
      sizeOrCount inner enclosure
    | some '\x7d' => malformed
    | some c =>
      skip
      match specialParameter? c with
      | some parameter => adjusted inner enclosure parameter
      | none => malformed
    | none => malformed

/-- Reads what follows a dollar sign; where nothing follows that stands for a value, the sign
stands for itself. -/
def substitution (inner : InnerReader) (enclosure : Enclosure) (draft : WordDraft) :
    Reading WordDraft := do
  match ← look with
  | none => return draft.push '$'
  | some '(' =>
    let _ ← take
    if ← takeIf '(' then return draft.add (.formula (← inner.pieces .formula))
    else return draft.add (.output (← nested (inner.commands .enclosed)))
  | some '\x7b' =>
    let _ ← take
    return draft.add (← braced inner enclosure)
  | some c =>
    if startsName c then
      return draft.add (.value (.named (String.ofList (← takeWhile inName))))
    else
      match specialParameter? c with
      | some parameter =>
        let _ ← take
        return draft.add (.value parameter)
      | none => return draft.push '$'

/-- Reads a character that has no meaning of its own outside of its enclosure. -/
def ordinary (inner : InnerReader) (enclosure : Enclosure) (draft : WordDraft) (c : Char) :
    Reading WordDraft := do
  match c, enclosure with
  | '$', .delimiter => return draft.push '$'
  | '\x60', .delimiter => return draft.push '\x60'
  | '\x5c', _ =>
    if enclosure.isQuoted then escapeQuoted enclosure draft else escapeBare draft
  | '$', _ => substitution inner enclosure draft
  | '\x60', _ => return draft.add (← backquoted inner enclosure)
  | '\x27', _ =>
    if enclosure.quotesSingly then return draft.add (.quoted [.text (← singleQuoted)])
    else return draft.push c
  | '\x22', _ =>
    match enclosure.openedQuotes? with
    | some quotes => return draft.add (.quoted (← inner.pieces quotes))
    | none => return draft.push c
  | _, _ => return draft.push c

/-- Takes the line that ends a document if it stands here.  The tabs in front of a line of the
document are dropped where they have to be. -/
def takeDelimiter : Reading Bool := do
  let cursor ← get
  match cursor.delimiter with
  | none => return false
  | some (delimiter, dropsTabs) =>
    if !cursor.atLineStart then return false
    let chars := if dropsTabs then cursor.chars.dropWhile (· = '\t') else cursor.chars
    let rest := chars.drop delimiter.length
    if delimiter.isPrefixOf chars && (rest.isEmpty || rest.head? = some '\n') then
      set { cursor with
        chars := rest.tail, line := if rest.isEmpty then cursor.line else cursor.line + 1 }
      return true
    else
      set { cursor with chars := chars, atLineStart := false }
      return false

/-- Reads the next part of some pieces, or finds their end. -/
def partStep (inner : InnerReader) (enclosure : Enclosure) (draft : WordDraft) :
    Reading (WordDraft ⊕ Word) := do
  let goOn := fun (c : Char) => do
    let _ ← take
    return Sum.inl (← ordinary inner enclosure draft c)
  let finish := do
    let _ ← take
    return Sum.inr draft.word
  match ← look, enclosure with
  | none, .bare => return .inr draft.word
  | none, .delimiter => return .inr draft.word
  | none, .document => return .inr draft.word
  | none, _ => throw (enclosure.endFault (← get).inDocument)
  | some '\x7d', .braces => finish
  | some '\x7d', .quotedBraces => finish
  | some '\x22', .quotes _ => finish
  | some '(', .formula =>
    let _ ← take
    return .inl { draft.push '(' with depth := draft.depth + 1 }
  | some ')', .formula =>
    let _ ← take
    if 0 < draft.depth then return .inl { draft.push ')' with depth := draft.depth - 1 }
    else if ← takeIf ')' then return .inr draft.word
    else return .inl (draft.push ')')
  | some c, .bare => if endsWord c then return .inr draft.word else goOn c
  | some c, .delimiter => if endsWord c then return .inr draft.word else goOn c
  | some c, _ => goOn c

/-- Reads the next part of some pieces, or finds their end, which may be the end of a document. -/
def pieceStep (inner : InnerReader) (enclosure : Enclosure) (draft : WordDraft) :
    Reading (WordDraft ⊕ Word) := do
  if ← takeDelimiter then
    if enclosure = .document then return .inr draft.word
    else throw (enclosure.endFault true)
  else partStep inner enclosure draft

/-- Reads pieces up to the end of what they stand in. -/
def pieces (inner : InnerReader) (enclosure : Enclosure) : Reading Word :=
  repeating .empty (pieceStep inner enclosure)

end Reading

end CompileServer.Shell
