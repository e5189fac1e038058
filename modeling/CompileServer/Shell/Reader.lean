import CompileServer.Shell.WordReader

/-!
# Reading scripts

The text is cut into tokens, and the tokens are put together to commands.  A fault spoils
the line it stands in and all that follows, but none of the lines before it.
-/

namespace CompileServer.Shell

/-- The commands that no function can have the name of. -/
def reservedNames : List String :=
  [".", ":", "break", "continue", "eval", "exec", "exit", "export", "readonly", "return", "set",
    "shift", "times", "trap", "unset"]

namespace Document

/-- The text after the line at hand, where `mark` is the quote that is open and `isEscaped` says
that a backslash stands in front.  Line ends between quotes are part of the line. -/
def afterLine (line : Nat) (mark : Option Char) (isEscaped : Bool) :
    List Char → List Char × Nat
  | [] => ([], line)
  | c :: rest =>
    let next := if c = '\n' then line + 1 else line
    if isEscaped then afterLine next mark false rest
    else if c = '\x5c' && mark ≠ some '\x27' then afterLine next mark true rest
    else match mark with
      | none =>
        if c = '\n' then (rest, next)
        else afterLine next (if c = '\x27' || c = '\x22' then some c else none) false rest
      | some quote => afterLine next (if c = quote then none else mark) false rest

/-- The lines of a document up to the one that ends it, and what follows. -/
def split (dropsTabs : Bool) (delimiter : List Char) :
    Nat → List Char → List Char → List Char × List Char
  | 0, found, rest => (found, rest)
  | fuel + 1, found, chars =>
    if chars.isEmpty then (found, [])
    else
      let line := if dropsTabs then chars.dropWhile (· = '\t') else chars
      let words := line.takeWhile (· ≠ '\n')
      let rest := (line.dropWhile (· ≠ '\n')).tail
      if words = delimiter then (found, rest)
      else
        let ends := if words.length < line.length then ['\n'] else []
        split dropsTabs delimiter fuel (found ++ words ++ ends) rest

/-- The text of the word that names the end of a document. -/
def delimiterText (word : Word) : List Char :=
  word.flatMap fun piece =>
    match piece with
    | .text chars => chars
    | .quoted pieces => pieces.flatMap fun piece =>
      match piece with
      | .text chars => chars
      | _ => []
    | _ => []

/-- Whether a word has quotes, so that the document is taken as it stands. -/
def isLiteral (delimiter : Word) : Bool :=
  delimiter.any fun piece =>
    match piece with
    | .quoted _ => true
    | _ => false

end Document

namespace Reading

/-- Refuses a token, where perhaps another one was expected. -/
def refuse {β : Type} (token : Token) (expected : Option String) : Reading β :=
  throw (.unexpected token.name expected)

/-- Keeps a token for later. -/
def pushBack (token : Token) : Reading Unit :=
  modify ({ · with pending := some token })

/-- Leaves the documents below a line behind that has come to its end. -/
def passDocuments : Reading Unit :=
  modify fun cursor =>
    match cursor.below with
    | some (chars, line) => { cursor with chars := chars, line := line, below := none }
    | none => cursor

/-- Reads a redirection of the given channel, or of the usual one, after its first character. -/
def redirection (channel : Option Nat) (mark : Char) : Reading Token := do
  if mark = '>' then
    let channel := channel.getD 1
    if ← takeIf '>' then return .redirection channel .append
    else if ← takeIf '|' then return .redirection channel .write
    else if ← takeIf '&' then return .redirection channel .share
    else return .redirection channel .write
  else
    let channel := channel.getD 0
    if ← takeIf '<' then return .document channel (← takeIf '-')
    else if ← takeIf '&' then return .redirection channel .share
    else if ← takeIf '>' then return .redirection channel .update
    else return .redirection channel .read

/-- Reads a word, or a redirection with the number of its channel in front. -/
def wordToken (inner : InnerReader) (enclosure : Enclosure) : Reading Token := do
  let word ← pieces inner enclosure
  match word, ← look with
  | [.text [d]], some c =>
    if d.isDigit && (c = '<' || c = '>') then
      let _ ← take
      redirection (some (d.toNat - 48)) c
    else return .word word
  | _, _ => return .word word

/-- Drops blanks and a comment. -/
def skipBlanks : Reading Unit :=
  repeating () fun _ => do
    match ← look with
    | some ' ' =>
      let _ ← take
      return .inl ()
    | some '\t' =>
      let _ ← take
      return .inl ()
    | some '#' =>
      modify fun cursor => { cursor with chars := cursor.chars.dropWhile (· ≠ '\n') }
      return .inr ()
    | _ => return .inr ()

/-- Reads a token that was not read before; a word of it has the given enclosure. -/
def fresh (inner : InnerReader) (enclosure : Enclosure) : Reading Token := do
  skipBlanks
  let one := fun (token : Token) => do
    let _ ← take
    return token
  let two := fun (c : Char) (double single : Token) => do
    let _ ← take
    return if ← takeIf c then double else single
  match ← look with
  | none => return .endOfText
  | some '\n' => one .lineEnd
  | some '&' => two '&' .both .background
  | some '|' => two '|' .either .pipe
  | some ';' => two ';' .caseEnd .semicolon
  | some '(' => one .opening
  | some ')' => one .closing
  | some c =>
    if c = '<' || c = '>' then
      let _ ← take
      redirection none c
    else wordToken inner enclosure

/-- The next token. -/
def plain (inner : InnerReader) : Reading Token := do
  match (← get).pending with
  | some token =>
    modify ({ · with pending := none })
    return token
  | none => fresh inner .bare

/-- The next token that is no line end. -/
def pastLineEnds (inner : InnerReader) : Reading Token :=
  repeating () fun _ => do
    match ← plain inner with
    | .lineEnd =>
      passDocuments
      return .inl ()
    | token => return .inr token

/-- The next token where keywords count. -/
def next (inner : InnerReader) (skipsLineEnds : Bool) : Reading Token := do
  return (← if skipsLineEnds then pastLineEnds inner else plain inner).withKeywords

/-- Looks at the next token where keywords count. -/
def peek (inner : InnerReader) (skipsLineEnds : Bool) : Reading Token := do
  let token ← next inner skipsLineEnds
  pushBack token
  return token

/-- Reads a keyword. -/
def keyword (inner : InnerReader) (skipsLineEnds : Bool) (name : String) : Reading Unit := do
  match ← next inner skipsLineEnds with
  | .keyword found =>
    if found = name then return else refuse (.keyword found) (some (quoted name))
  | token => refuse token (some (quoted name))

/-- Reads the document that belongs to the line at hand. -/
def document (inner : InnerReader) (channel : Nat) (dropsTabs : Bool) :
    Reading (Redirection Word) := do
  match ← fresh inner .delimiter with
  | .word delimiter =>
    let cursor ← get
    let (chars, line) := cursor.below.getD (Document.afterLine cursor.line none false cursor.chars)
    let text := Document.delimiterText delimiter
    if Document.isLiteral delimiter then
      let (body, rest) := Document.split dropsTabs text (chars.length + 1) [] chars
      set { cursor with
        below := some (rest, line + (chars.count '\n' - rest.count '\n')) }
      return ⟨channel, .document, [.quoted [.text body]]⟩
    else
      set { cursor with
        chars := chars, line := line, delimiter := some (text, dropsTabs), atLineStart := true }
      let word ← pieces inner .document
      modify fun reached => { cursor with below := some (reached.chars, reached.line) }
      return ⟨channel, .document, [.quoted word]⟩
  | token => refuse token none

/-- Reads the target of a redirection. -/
def target (inner : InnerReader) (channel : Nat) (direction : Direction) :
    Reading (Redirection Word) := do
  match ← plain inner with
  | .word word => return ⟨channel, direction, word⟩
  | token => refuse token none

/-- Reads the redirections that follow a command. -/
def redirections (inner : InnerReader) : Reading (List (Redirection Word)) :=
  repeating [] fun found => do
    match ← next inner false with
    | .redirection channel direction =>
      return .inl (found ++ [← target inner channel direction])
    | .document channel dropsTabs => return .inl (found ++ [← document inner channel dropsTabs])
    | token =>
      pushBack token
      return .inr found

/-- The name and the value of a word that assigns a variable. -/
def assignment? : Word → Option (String × Word)
  | .text (c :: chars) :: rest =>
    match (c :: chars).dropWhile inName with
    | '=' :: value =>
      if startsName c then
        some (String.ofList ((c :: chars).takeWhile inName),
          if value.isEmpty then rest else .text value :: rest)
      else none
    | _ => none
  | _ => none

/-- A simple command that is being read. -/
structure SimpleDraft where
  assignments : List (String × Word)
  words : List Word
  redirections : List (Redirection Word)

/-- The name of the function that a draft starts to define, if it is followed by a
parenthesis. -/
def SimpleDraft.functionName? (draft : SimpleDraft) : Option Word :=
  match draft with
  | ⟨[], [word], []⟩ => some word
  | _ => none

/-- Reads a command that is no simple one, or a simple one. -/
abbrev CommandReader := Reading Command

/-- Reads the rest of the definition of a function. -/
def definition (inner : InnerReader) (command : CommandReader) (word : Word) :
    Reading Command := do
  match ← plain inner with
  | .closing =>
    match plainText? word with
    | some name =>
      if isName name && !reservedNames.contains name then
        let _ ← peek inner true
        return .definition name (← command)
      else throw .badFunctionName
    | none => throw .badFunctionName
  | token => refuse token (some Token.closing.name)

/-- Reads a simple command or the definition of a function. -/
def simple (inner : InnerReader) (command : CommandReader) : Reading Command := do
  let line := (← get).line
  repeating (⟨[], [], []⟩ : SimpleDraft) fun draft => do
    let finish := fun (token : Token) => do
      pushBack token
      return Sum.inr (Command.simple line draft.assignments draft.words draft.redirections)
    match ← plain inner with
    | .word word =>
      match if draft.words.isEmpty then assignment? word else none with
      | some entry => return .inl { draft with assignments := draft.assignments ++ [entry] }
      | none => return .inl { draft with words := draft.words ++ [word] }
    | .redirection channel direction =>
      let found ← target inner channel direction
      return .inl { draft with redirections := draft.redirections ++ [found] }
    | .document channel dropsTabs =>
      let found ← document inner channel dropsTabs
      return .inl { draft with redirections := draft.redirections ++ [found] }
    | .opening =>
      match draft.functionName? with
      | some word => return .inr (← definition inner command word)
      | none => finish .opening
    | token => finish token

/-- Reads a branch after its keyword. -/
def branch (inner : InnerReader) : Reading Command := do
  let clause := do
    let condition ← inner.commands .body
    keyword inner false "then"
    return (condition, ← inner.commands .body)
  let (condition, body) ← clause
  let others ← repeating [] fun found => do
    match ← next inner false with
    | .keyword "elif" => return .inl ((← clause) :: found)
    | token =>
      pushBack token
      return .inr found
  let otherwise ← do
    match ← next inner false with
    | .keyword "else" => some <$> inner.commands .body
    | token =>
      pushBack token
      pure none
  keyword inner false "fi"
  return .branch condition body
    (others.foldl (fun otherwise (condition, body) => some (.branch condition body otherwise))
      otherwise)

/-- Reads a loop after its keyword. -/
def loop (inner : InnerReader) (onSuccess : Bool) : Reading Command := do
  let condition ← inner.commands .body
  keyword inner false "do"
  let body ← inner.commands .body
  keyword inner false "done"
  return .loop onSuccess condition body

/-- Reads the words that a loop runs over, up to the end of the line or a semicolon. -/
def loopWords (inner : InnerReader) : Reading (List Word) :=
  repeating [] fun found => do
    match ← plain inner with
    | .word word => return .inl (found ++ [word])
    | .lineEnd => return .inr found
    | .semicolon => return .inr found
    | token => refuse token none

/-- Reads a loop over words after its keyword; without words it runs over the arguments. -/
def each (inner : InnerReader) (line : Nat) : Reading Command := do
  let name ← do
    match ← plain inner with
    | .word word =>
      match plainText? word with
      | some name => if isName name then pure name else throw .badLoopName
      | none => throw .badLoopName
    | _ => throw .badLoopName
  let words ← do
    match ← next inner true with
    | .keyword "in" => loopWords inner
    | .semicolon => pure [[.quoted [.value .arguments]]]
    | token =>
      pushBack token
      pure [[.quoted [.value .arguments]]]
  keyword inner true "do"
  let body ← inner.commands .body
  keyword inner false "done"
  return .each line name words body

/-- Reads the patterns of a case, of which the first one was read, and the parenthesis after
them. -/
def patterns (inner : InnerReader) (first : Token) : Reading (List Word) :=
  repeating [first.asWord] fun found => do
    match ← plain inner with
    | .pipe => return .inl (found ++ [(← plain inner).asWord])
    | .closing => return .inr found
    | token => refuse token (some Token.closing.name)

/-- Reads a choice after its keyword. -/
def choice (inner : InnerReader) (line : Nat) : Reading Command := do
  let word ← do
    match ← plain inner with
    | .word word => pure word
    | token => refuse token (some (Token.word []).name)
  keyword inner true "in"
  let cases ← repeating [] fun found => do
    match ← next inner true with
    | .keyword "esac" => return .inr found
    | token =>
      let first ← match token with
        | .opening => plain inner
        | token => pure token
      let words ← patterns inner first
      let found := found ++ [(words, ← inner.commands .optional)]
      match ← next inner true with
      | .keyword "esac" => return .inr found
      | .caseEnd => return .inl found
      | token => refuse token (some Token.caseEnd.name)
  return .choice line word cases

/-- A command with the redirections that follow it. -/
def withRedirections (inner : InnerReader) (line : Nat) (body : Command) : Reading Command := do
  match ← redirections inner with
  | [] => return body
  | found =>
    match body with
    | .apart line inside [] => return .apart line inside found
    | body => return .redirected line body found

/-- Reads a command that a keyword or a parenthesis starts, or a simple one. -/
def commandWith (inner : InnerReader) (command : CommandReader) : Reading Command := do
  let line := (← get).line
  let compound := fun (body : Reading Command) => do withRedirections inner line (← body)
  match ← plain inner with
  | .keyword "if" => compound (branch inner)
  | .keyword "while" => compound (loop inner true)
  | .keyword "until" => compound (loop inner false)
  | .keyword "for" => compound (each inner line)
  | .keyword "case" => compound (choice inner line)
  | .keyword "\x7b" => compound do
    let body ← inner.commands .body
    keyword inner false "\x7d"
    return body
  | .opening => compound do
    let body ← inner.commands .body
    match ← next inner false with
    | .closing => return .apart line body []
    | token => refuse token (some Token.closing.name)
  | token =>
    match token with
    | .word _ => pushBack token
    | .redirection _ _ => pushBack token
    | .document _ _ => pushBack token
    | _ => refuse token none
    simple inner command

/-- Reads a command; functions that are defined one in another nest at most as deep as given. -/
def command (inner : InnerReader) : Nat → Reading Command
  | 0 => throw (.unexpected Token.endOfText.name none)
  | fuel + 1 => commandWith inner (command inner fuel)

/-- Reads commands with pipes between them. -/
def pipeline (inner : InnerReader) : Reading Command := do
  let bound := (← get).bound
  let isNegated ← do
    match ← next inner false with
    | .keyword "!" =>
      let _ ← peek inner false
      pure true
    | token =>
      pushBack token
      pure false
  let first ← command inner bound
  let commands ← repeating [first] fun found => do
    match ← plain inner with
    | .pipe =>
      let _ ← peek inner true
      return .inl (found ++ [← command inner bound])
    | token =>
      pushBack token
      return .inr found
  let body := match commands with
    | [one] => one
    | several => .pipeline several
  return if isNegated then .negated body else body

/-- Reads commands that depend on how the ones before them end. -/
def andOr (inner : InnerReader) : Reading Command := do
  let first ← pipeline inner
  repeating first fun found => do
    let join := fun (build : Command → Command → Command) => do
      let _ ← peek inner true
      return Sum.inl (build found (← pipeline inner))
    match ← plain inner with
    | .both => join .both
    | .either => join .either
    | token =>
      pushBack token
      return .inr found

/-- Some commands and whether the text ends with them. -/
abbrev CommandList := List Command × Bool

/-- Reads the next command of a list, or finds the end of the list. -/
def listStep (inner : InnerReader) (setting : Setting) (found : List Command) :
    Reading (List Command ⊕ CommandList) := do
  let isLine := setting = .line
  match ← next inner (!isLine) with
  | .lineEnd =>
    passDocuments
    return .inr (found, false)
  | .endOfText =>
    pushBack .endOfText
    return .inr (found, true)
  | token =>
    pushBack token
    if !isLine && token.endsCommands && (setting ≠ .body || !found.isEmpty) then
      return .inr (found, false)
    let command ← andOr inner
    match ← plain inner with
    | .background => return .inl (found ++ [.background command])
    | .semicolon => return .inl (found ++ [command])
    | token =>
      pushBack token
      match token with
      | .lineEnd => return .inl (found ++ [command])
      | .endOfText => return .inr (found ++ [command], true)
      | token =>
        if isLine then refuse token none else return .inr (found ++ [command], false)

/-- Reads a list of commands. -/
def list (inner : InnerReader) (setting : Setting) : Reading CommandList :=
  repeating [] (listStep inner setting)

/-- A command that does what some commands do one after the other. -/
def ofList : List Command → Command
  | [command] => command
  | commands => .sequence commands

/-- Reads the commands of a setting. -/
def commands (inner : InnerReader) (setting : Setting) : Reading Command := do
  let (found, _) ← list inner setting
  match setting with
  | .enclosed =>
    match ← next inner false with
    | .closing => return ofList found
    | token => refuse token (some Token.closing.name)
  | _ => return ofList found

/-- The readers for what nests at most as deep as given. -/
def inner : Nat → InnerReader
  | 0 =>
    ⟨fun _ => throw (.unexpected Token.endOfText.name none),
      fun _ => throw (.unexpected Token.endOfText.name none)⟩
  | depth + 1 => ⟨pieces (inner depth), commands (inner depth)⟩

/-- Reads lines up to the end of the text or a fault, at most the given number of them. -/
def lines (inner : InnerReader) : Nat → Cursor → Script
  | 0, _ => ⟨[], none⟩
  | fuel + 1, cursor =>
    match list inner .line cursor with
    | (.error fault, cursor) => ⟨[], some (cursor.line, fault)⟩
    | (.ok ([], true), _) => ⟨[], none⟩
    | (.ok (found, _), cursor) =>
      let rest := lines inner fuel cursor
      { rest with lines := (cursor.line, ofList found) :: rest.lines }

end Reading

/-- The script that a text holds. -/
def Script.ofText (text : String) : Script :=
  let cursor := Cursor.start text.toList 1
  Reading.lines (Reading.inner cursor.bound) cursor.bound cursor

end CompileServer.Shell
