import CompileServer.Shell.Regex

/-!
# Edit scripts

What an editor of texts is told to do with each line: commands, each of them for some of the
lines, which are written one after the other.
-/

namespace CompileServer.Shell

/-- An expression that is looked for, and whether case does not count; without one the last
expression that was looked for is meant. -/
abbrev Sought := Option (Regex × Bool)

/-- A line or some lines. -/
inductive Address where
  | line (number : Nat)
  /-- A line and every so many lines after it. -/
  | every (first step : Nat)
  | last
  | matching (sought : Sought)

/-- Where lines in a row end. -/
inductive RangeEnd where
  | at (address : Address)
  /-- So many lines after the first. -/
  | after (count : Nat)

/-- The lines that a command is for. -/
structure LineSet where
  first : Option Address
  last : Option RangeEnd
  /-- Whether all other lines are meant. -/
  negated : Bool

/-- A part of what takes the place of a match. -/
inductive Substitute where
  | char (c : Char)
  /-- What a group matched; group zero is the match as a whole. -/
  | group (number : Nat)

/-- When to go on at a label. -/
inductive JumpCase where
  | always
  /-- A match was replaced since the line was read. -/
  | ifReplaced
  | ifNotReplaced
deriving DecidableEq, Repr

/-- What is done with the text at hand. -/
inductive Edit where
  /-- Matches are replaced from the given one on, all of them or just one. -/
  | replace (sought : Sought) (substitutes : List Substitute) (first : Nat) (all prints : Bool)
  | exchangeChars (pairs : List (Char × Char))
  | delete
  | deleteFirstLine
  | print
  | printFirstLine
  | printNumber
  | readNext
  | joinNext
  /-- The text is kept, perhaps after what is kept already. -/
  | keep (joins : Bool)
  /-- What is kept becomes the text, or follows it. -/
  | fetch (joins : Bool)
  | swap
  | putBefore (text : List Char)
  | putAfter (text : List Char)
  | change (text : List Char)
  /-- The content of a file follows. -/
  | putFile (name : List Char)
  /-- The work ends with a status, after the line is finished or at once. -/
  | quit (finishes : Bool) (status : Nat)
  /-- The commands up to the end of the block are for the given lines only. -/
  | block
  | endOfBlock
  | label (name : List Char)
  | jump (when : JumpCase) (label : List Char)

/-- A command for some lines. -/
structure Instruction where
  lines : LineSet
  edit : Edit

namespace EditScript

/-- Why a text is no edit script. -/
inductive Fault where
  | unknownCommand (c : Char)
  | missingCommand
  | extraChars
  | openAddress
  | unexpectedComma
  | lineZero
  | openReplacement
  | openExchange
  | unequalExchange
  | unknownOption
  | zeroOption
  | missingText
  | strayBrace
  | openBrace
  | noLabel
  | missingLabel (name : List Char)
  | unwantedAddresses (what : String)
  | badGroup (number : Nat)
  | badRegex (fault : Regex.Fault)

/-- A text in the quotes that messages have. -/
def quoted (text : String) : String :=
  "\x60" ++ text ++ "'"

/-- The message of a fault. -/
def Fault.message : Fault → String
  | .unknownCommand c => "unknown command: " ++ quoted (String.singleton c)
  | .missingCommand => "missing command"
  | .extraChars => "extra characters after command"
  | .openAddress => "unterminated address regex"
  | .unexpectedComma => "unexpected " ++ quoted ","
  | .lineZero => "invalid usage of line address 0"
  | .openReplacement => "unterminated " ++ quoted "s" ++ " command"
  | .openExchange => "unterminated " ++ quoted "y" ++ " command"
  | .unequalExchange => "strings for " ++ quoted "y" ++ " command are different lengths"
  | .unknownOption => "unknown option to " ++ quoted "s"
  | .zeroOption => "number option to " ++ quoted "s" ++ " command may not be zero"
  | .missingText =>
    "expected \\ after " ++ quoted "a" ++ ", " ++ quoted "c" ++ " or " ++ quoted "i"
  | .strayBrace => "unexpected " ++ quoted "\x7d"
  | .openBrace => "unmatched " ++ quoted "\x7b"
  | .noLabel => "\":\" lacks a label"
  | .missingLabel name => "can't find label for jump to " ++ quoted (String.ofList name)
  | .unwantedAddresses what => what
  | .badGroup number =>
    "invalid reference \\" ++ toString number ++ " on " ++ quoted "s" ++ " command's RHS"
  | .badRegex fault => fault.message

/-- Reading of a script: the characters that are left, and in case of a fault how many were left
when it was found. -/
abbrev Reading (β : Type) := StateT (List Char) (Except (Fault × Nat)) β

/-- Stops because of a fault. -/
def fail {β : Type} (fault : Fault) : Reading β := do
  throw (fault, (← get).length)

/-- Takes the next character, if there is one. -/
def take? : Reading (Option Char) := do
  match ← get with
  | c :: rest =>
    set rest
    return some c
  | [] => return none

/-- Takes the characters up to the first one that is not accepted. -/
def takeWhile (accepts : Char → Bool) : Reading (List Char) := do
  let chars ← get
  set (chars.dropWhile accepts)
  return chars.takeWhile accepts

/-- Takes the next character if it is the given one. -/
def takeIf (c : Char) : Reading Bool := do
  match ← get with
  | next :: rest =>
    if next = c then set rest
    return next = c
  | [] => return false

/-- Whether a character is a gap inside a line. -/
def isGap (c : Char) : Bool :=
  c = ' ' || c = '\t'

/-- Cuts characters at the first end mark, where a backslash takes the meaning from the mark after
it.  The result is missing if there is no end mark. -/
def cutAt (mark : Char) (inRegex : Bool) : List Char → Option (List Char × List Char)
  | [] => none
  | '\n' :: _ => none
  | ['\\'] => none
  | '\\' :: c :: rest =>
    (cutAt mark inRegex rest).map fun (part, rest) =>
      if c = 'n' && inRegex then ('\n' :: part, rest)
      else if c = '\n' || c = mark && (inRegex || c ≠ '&') then (c :: part, rest)
      else ('\\' :: c :: part, rest)
  | c :: rest =>
    if c = mark then some ([], rest)
    else (cutAt mark inRegex rest).map fun (part, rest) => (c :: part, rest)

/-- Takes characters up to an end mark. -/
def takeUpTo (mark : Char) (inRegex : Bool) (fault : Fault) : Reading (List Char) := do
  match cutAt mark inRegex (← get) with
  | some (part, rest) =>
    set rest
    return part
  | none =>
    set ([] : List Char)
    fail fault

/-- Replaces the escapes for characters that cannot be seen. -/
def unescape : List Char → List Char
  | '\\' :: 'a' :: rest => '\x07' :: unescape rest
  | '\\' :: 'f' :: rest => '\x0c' :: unescape rest
  | '\\' :: 'r' :: rest => '\r' :: unescape rest
  | '\\' :: 't' :: rest => '\t' :: unescape rest
  | '\\' :: 'v' :: rest => '\x0b' :: unescape rest
  | '\\' :: c :: rest => '\\' :: c :: unescape rest
  | c :: rest => c :: unescape rest
  | [] => []

/-- The expression that characters are; no characters stand for the last one looked for. -/
def sought (dialect : Regex.Dialect) (ignoresCase : Bool) (chars : List Char) :
    Reading Sought := do
  if chars.isEmpty then return none
  else match Regex.ofText dialect (unescape chars) with
    | .ok regex => return some (regex, ignoresCase)
    | .error fault => fail (.badRegex fault)

/-- Takes a number, if one is next. -/
def takeNumber? : Reading (Option Nat) := do
  return naturalOf? (← takeWhile Char.isDigit)

/-- Takes the address of lines, if one is next. -/
def takeAddress? (dialect : Regex.Dialect) : Reading (Option Address) := do
  let regexUpTo := fun (mark : Char) => do
    let chars ← takeUpTo mark true .openAddress
    let ignoresCase ← takeIf 'I'
    return some (Address.matching (← sought dialect ignoresCase chars))
  match ← get with
  | '$' :: rest =>
    set rest
    return some .last
  | '/' :: rest =>
    set rest
    regexUpTo '/'
  | '\\' :: mark :: rest =>
    set rest
    regexUpTo mark
  | _ =>
    match ← takeNumber? with
    | none => return none
    | some first =>
      if ← takeIf '~' then return some (.every first ((← takeNumber?).getD 0))
      else return some (.line first)

/-- Takes the end of lines in a row. -/
def takeRangeEnd (dialect : Regex.Dialect) : Reading RangeEnd := do
  if ← takeIf '+' then return .after ((← takeNumber?).getD 0)
  else match ← takeAddress? dialect with
    | some address => return .at address
    | none => fail .unexpectedComma

/-- Takes the lines that a command is for. -/
def takeLineSet (dialect : Regex.Dialect) : Reading LineSet := do
  let first ← takeAddress? dialect
  let _ ← takeWhile isGap
  let last ←
    if first.isSome then
      if ← takeIf ',' then
        let _ ← takeWhile isGap
        some <$> takeRangeEnd dialect
      else pure none
    else pure none
  match first, last with
  | some (.line 0), some (.at (.matching _)) => pure ()
  | some (.line 0), _ => fail .lineZero
  | _, _ => pure ()
  let _ ← takeWhile isGap
  let negated ← takeIf '!'
  let _ ← takeWhile isGap
  return ⟨first, last, negated⟩

/-- The parts of what takes the place of a match. -/
def substitutes : List Char → List Substitute
  | [] => []
  | '&' :: rest => .group 0 :: substitutes rest
  | '\\' :: 'n' :: rest => .char '\n' :: substitutes rest
  | '\\' :: c :: rest =>
    (if c.isDigit then .group (digitOf c) else .char c) :: substitutes rest
  | c :: rest => .char c :: substitutes rest

/-- The options of a replacement. -/
structure ReplaceOptions where
  first : Nat
  all : Bool
  prints : Bool
  ignoresCase : Bool

/-- Takes the options of a replacement, of which there are at most so many. -/
def takeOptions : Nat → ReplaceOptions → Reading ReplaceOptions
  | 0, options => return options
  | fuel + 1, options => do
    match ← get with
    | 'g' :: rest =>
      set rest
      takeOptions fuel { options with all := true }
    | 'p' :: rest =>
      set rest
      takeOptions fuel { options with prints := true }
    | 'i' :: rest =>
      set rest
      takeOptions fuel { options with ignoresCase := true }
    | 'I' :: rest =>
      set rest
      takeOptions fuel { options with ignoresCase := true }
    | _ =>
      match ← takeNumber? with
      | some 0 => fail .zeroOption
      | some first => takeOptions fuel { options with first := first }
      | none => return options

/-- Takes a replacement after its letter. -/
def takeReplace (dialect : Regex.Dialect) : Reading Edit := do
  match ← take? with
  | none => fail .openReplacement
  | some mark =>
    let pattern ← takeUpTo mark true .openReplacement
    let parts := substitutes (unescape (← takeUpTo mark false .openReplacement))
    let options ← takeOptions ((← get).length + 1) ⟨1, false, false, false⟩
    let sought ← sought dialect options.ignoresCase pattern
    let groups := match sought with
      | some (regex, _) => regex.groupCount
      | none => 9
    for part in parts do
      match part with
      | .group number => if groups < number then fail (.badGroup number)
      | .char _ => pure ()
    return .replace sought parts options.first options.all options.prints

/-- Takes an exchange of characters after its letter. -/
def takeExchange : Reading Edit := do
  match ← take? with
  | none => fail .openExchange
  | some mark =>
    let plain := fun (chars : List Char) => (substitutes (unescape chars)).filterMap fun part =>
      match part with
      | .char c => some c
      | .group 0 => some '&'
      | .group _ => none
    let old := plain (← takeUpTo mark false .openExchange)
    let new := plain (← takeUpTo mark false .openExchange)
    if old.length = new.length then return .exchangeChars (old.zip new)
    else fail .unequalExchange

/-- Cuts characters at the end of a line, where a backslash keeps the character after it. -/
def cutText : List Char → List Char × List Char
  | [] => ([], [])
  | '\n' :: rest => ([], rest)
  | ['\\'] => ([], [])
  | '\\' :: c :: rest =>
    let (part, rest) := cutText rest
    (c :: part, rest)
  | c :: rest =>
    let (part, rest) := cutText rest
    (c :: part, rest)

/-- Takes a text that is to be written, after the letter of its command. -/
def takeText : Reading (List Char) := do
  let _ ← takeWhile isGap
  match ← get with
  | [] => fail .missingText
  | '\\' :: rest =>
    let afterGap := rest.dropWhile isGap
    match afterGap with
    | '\n' :: rest => set rest
    | _ => set afterGap
  | _ => pure ()
  let (text, rest) := cutText (← get)
  set rest
  return text ++ ['\n']

/-- Takes the name of a file, which ends with its line. -/
def takeFileName : Reading (List Char) := do
  let _ ← takeWhile isGap
  takeWhile (· ≠ '\n')

/-- Takes a label, which ends in front of a gap or a mark. -/
def takeLabel : Reading (List Char) := do
  let _ ← takeWhile isGap
  takeWhile fun c => !(isGap c || c = '\n' || c = ';' || c = '\x7d')

/-- Takes what a command does after its letter. -/
def takeEdit (dialect : Regex.Dialect) (c : Char) : Reading Edit := do
  match c with
  | '\x7b' => return .block
  | '\x7d' => return .endOfBlock
  | '=' => return .printNumber
  | ':' =>
    let name ← takeLabel
    if name.isEmpty then fail .noLabel else return .label name
  | 'D' => return .deleteFirstLine
  | 'G' => return .fetch true
  | 'H' => return .keep true
  | 'N' => return .joinNext
  | 'P' => return .printFirstLine
  | 'Q' =>
    let _ ← takeWhile isGap
    return .quit false ((← takeNumber?).getD 0)
  | 'T' => return .jump .ifNotReplaced (← takeLabel)
  | 'a' => return .putAfter (← takeText)
  | 'b' => return .jump .always (← takeLabel)
  | 'c' => return .change (← takeText)
  | 'd' => return .delete
  | 'g' => return .fetch false
  | 'h' => return .keep false
  | 'i' => return .putBefore (← takeText)
  | 'n' => return .readNext
  | 'p' => return .print
  | 'q' =>
    let _ ← takeWhile isGap
    return .quit true ((← takeNumber?).getD 0)
  | 'r' => return .putFile (← takeFileName)
  | 's' => takeReplace dialect
  | 't' => return .jump .ifReplaced (← takeLabel)
  | 'x' => return .swap
  | 'y' => takeExchange
  | c => fail (.unknownCommand c)

/-- Whether the end of a command has to be marked. -/
def needsEnd : Edit → Bool
  | .block => false
  | .putBefore _ => false
  | .putAfter _ => false
  | .change _ => false
  | _ => true

/-- Takes the end of a command. -/
def takeEnd (edit : Edit) : Reading Unit := do
  if needsEnd edit then
    let _ ← takeWhile isGap
    match ← get with
    | [] => return
    | ';' :: rest => set rest
    | '\n' :: rest => set rest
    | '\x7d' :: _ => return
    | '#' :: _ => return
    | _ :: rest =>
      set rest
      match edit with
      | .replace _ _ _ _ _ => fail .unknownOption
      | _ => fail .extraChars

/-- Takes commands up to the end, of which there are at most so many; `depth` is the number of
open blocks. -/
def takeInstructions (dialect : Regex.Dialect) : Nat → Nat → Reading (List Instruction)
  | 0, _ => return []
  | fuel + 1, depth => do
    let _ ← takeWhile fun c => isGap c || c = '\n' || c = ';'
    if (← get).isEmpty then
      if depth = 0 then return [] else throw (.openBrace, 0)
    else
      let lines ← takeLineSet dialect
      match ← take? with
      | none => fail .missingCommand
      | some '#' =>
        if lines.first.isSome then fail (.unwantedAddresses "comments don't accept any addresses")
        let _ ← takeWhile (· ≠ '\n')
        takeInstructions dialect fuel depth
      | some c =>
        if lines.last.isSome && (c = 'q' || c = 'Q') then
          fail (.unwantedAddresses "command only uses one address")
        let edit ← takeEdit dialect c
        let depth ← match edit with
          | .block => pure (depth + 1)
          | .endOfBlock =>
            if depth = 0 then fail .strayBrace
            else if lines.first.isSome then
              fail (.unwantedAddresses (quoted "\x7d" ++ " doesn't want any addresses"))
            else pure (depth - 1)
          | .label _ =>
            if lines.first.isSome then
              fail (.unwantedAddresses ": doesn't want any addresses")
            else pure depth
          | _ => pure depth
        takeEnd edit
        return ⟨lines, edit⟩ :: (← takeInstructions dialect fuel depth)

/-- The labels of commands. -/
def labels (instructions : List Instruction) : List (List Char) :=
  instructions.filterMap fun instruction =>
    match instruction.edit with
    | .label name => some name
    | _ => none

/-- The first label that is jumped to but is not there. -/
def missingLabel? (instructions : List Instruction) : Option (List Char) :=
  instructions.findSome? fun instruction =>
    match instruction.edit with
    | .jump _ name =>
      if name.isEmpty || (labels instructions).contains name then none else some name
    | _ => none

/-- The commands of a script, or the message about its first fault. -/
def read (dialect : Regex.Dialect) (script : List Char) : Except String (List Instruction) :=
  match (takeInstructions dialect (script.length + 1) 0).run script with
  | .ok (instructions, _) =>
    match missingLabel? instructions with
    | some name => .error (Fault.missingLabel name).message
    | none => .ok instructions
  | .error (.openBrace, _) =>
    .error ("-e expression #1, char 0: " ++ Fault.openBrace.message)
  | .error (fault, left) =>
    .error ("-e expression #1, char " ++ toString (script.length - left) ++ ": " ++ fault.message)

end EditScript

end CompileServer.Shell
