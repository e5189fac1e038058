import CompileServer.Shell.Script

/-!
# Tokens and cursors

A cursor stands somewhere in the text of a script.  It counts lines, it may hold a token
that was read before it was needed, and it remembers where the text goes on after a line
whose documents were taken from the lines below it.
-/

namespace CompileServer.Shell

/-- A token of a script. -/
inductive Token where
  | endOfText
  | lineEnd
  | semicolon
  /-- The command before is not waited for. -/
  | background
  /-- The next command needs success. -/
  | both
  /-- The next command needs failure. -/
  | either
  /-- The next command reads what the one before writes. -/
  | pipe
  | opening
  | closing
  /-- What ends a case. -/
  | caseEnd
  | redirection (channel : Nat) (direction : Direction)
  /-- A document follows below the line, perhaps without the tabs in front of its lines. -/
  | document (channel : Nat) (dropsTabs : Bool)
  | keyword (name : String)
  | word (word : Word)

/-- How a piece of a script is shown in messages. -/
def quoted (text : String) : String :=
  "\"" ++ text ++ "\""

namespace Token

/-- How a token is called in messages. -/
def name : Token → String
  | .endOfText => "end of file"
  | .lineEnd => "newline"
  | .semicolon => quoted ";"
  | .background => quoted "&"
  | .both => quoted "&&"
  | .either => quoted "||"
  | .pipe => quoted "|"
  | .opening => quoted "("
  | .closing => quoted ")"
  | .caseEnd => quoted ";;"
  | .redirection _ _ => "redirection"
  | .document _ _ => "redirection"
  | .keyword name => quoted name
  | .word _ => "word"

/-- The words that structure commands. -/
def keywords : List String :=
  ["!", "case", "do", "done", "elif", "else", "esac", "fi", "for", "if", "in", "then", "until",
    "while", "\x7b", "\x7d"]

/-- The keywords after which some commands are over. -/
def closingKeywords : List String :=
  ["do", "done", "elif", "else", "esac", "fi", "then", "\x7d"]

/-- Whether some commands are over when the token follows. -/
def endsCommands : Token → Bool
  | .endOfText => true
  | .closing => true
  | .caseEnd => true
  | .keyword name => closingKeywords.contains name
  | _ => false

/-- A token where keywords count: a word that is spelled like one becomes one. -/
def withKeywords : Token → Token
  | .word pieces =>
    match plainText? pieces with
    | some text => if keywords.contains text then .keyword text else .word pieces
    | none => .word pieces
  | token => token

/-- The word that a token is, where keywords do not count. -/
def asWord : Token → Word
  | .word pieces => pieces
  | .keyword text => [.text text.toList]
  | _ => []

end Token

/-- A place in the text of a script. -/
structure Cursor where
  /-- The characters that follow. -/
  chars : List Char
  /-- The number of the line. -/
  line : Nat
  /-- A token that was read but not used. -/
  pending : Option Token
  /-- What follows the next line end, with its line, if documents were taken from there. -/
  below : Option (List Char × Nat)
  /-- The line that ends the text, if the text is a document, and whether tabs in front of lines
  are dropped. -/
  delimiter : Option (List Char × Bool)
  /-- Whether a line starts here. -/
  atLineStart : Bool
  /-- More than the number of characters, which bounds every repetition. -/
  bound : Nat

namespace Cursor

/-- The start of a text that stands in the given line. -/
def start (chars : List Char) (line : Nat) : Cursor :=
  ⟨chars, line, none, none, none, true, chars.length + 2⟩

/-- Whether the text is a document. -/
def inDocument (cursor : Cursor) : Bool :=
  cursor.delimiter.isSome

end Cursor

/-- Reading at a cursor, which stays where a fault shows. -/
abbrev Reading (β : Type) := ExceptT ScriptFault (StateM Cursor) β

namespace Reading

/-- Repeats a step, at most the given number of times, until it has a result. -/
def repeatUpTo {σ β : Type} (step : σ → Reading (σ ⊕ β)) : Nat → σ → Reading β
  | 0, _ => throw (.unexpected Token.endOfText.name none)
  | fuel + 1, state => do
    match ← step state with
    | .inl next => repeatUpTo step fuel next
    | .inr result => return result

/-- Repeats a step that reads something until it has a result. -/
def repeating {σ β : Type} (start : σ) (step : σ → Reading (σ ⊕ β)) : Reading β := do
  repeatUpTo step (← get).bound start

/-- Drops line ends after backslashes, which join lines, and counts them. -/
def withoutJoins (line : Nat) : List Char → List Char × Nat
  | '\x5c' :: '\n' :: rest => withoutJoins (line + 1) rest
  | chars => (chars, line)

/-- The next character, which stays there. -/
def look : Reading (Option Char) := do
  let cursor ← get
  let (chars, line) := withoutJoins cursor.line cursor.chars
  set { cursor with chars := chars, line := line }
  return chars.head?

/-- Takes the next character as it stands. -/
def take : Reading (Option Char) := do
  let cursor ← get
  match cursor.chars with
  | [] => return none
  | c :: rest =>
    let isEnd := c = '\n'
    set { cursor with
      chars := rest
      line := if isEnd then cursor.line + 1 else cursor.line
      atLineStart := isEnd }
    return some c

/-- Drops the next character, which starts no line even if it is a line end. -/
def skip : Reading Unit :=
  modify fun cursor => { cursor with chars := cursor.chars.tail }

/-- Takes the next character if it is the given one. -/
def takeIf (c : Char) : Reading Bool := do
  if (← look) = some c then
    let _ ← take
    return true
  else return false

/-- Takes characters as long as they are of a kind. -/
def takeWhile (isGood : Char → Bool) : Reading (List Char) :=
  repeating [] fun found => do
    match ← look with
    | some c =>
      if isGood c then
        let _ ← take
        return .inl (c :: found)
      else return .inr found.reverse
    | none => return .inr found.reverse

/-- Reads another text in between, whose lines are counted from its start. -/
def within {β : Type} (chars : List Char) (body : Reading β) : Reading β := do
  let outer ← get
  set (Cursor.start chars 1)
  let result ← body
  set outer
  return result

/-- Reads on in the same text as if it started here, for something that stands inside of a
word. -/
def nested {β : Type} (body : Reading β) : Reading β := do
  let outer ← get
  set { outer with pending := none, below := none, delimiter := none }
  let result ← body
  modify ({ · with pending := outer.pending, below := outer.below,
                   delimiter := outer.delimiter })
  return result

end Reading

end CompileServer.Shell
