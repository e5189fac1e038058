import CompileServer.Shell.Regex
import CompileServer.Shell.TextUtility

/-!
# Searching texts

The program that selects the lines of files with a part that a regular expression matches.
-/

namespace CompileServer.Shell

/-- The characters that stand for bytes. -/
def charsOfBytes (bytes : List UInt8) : List Char :=
  bytes.map fun byte => Char.ofNat byte.toNat

/-- The bytes that characters stand for. -/
def bytesOfChars (chars : List Char) : List UInt8 :=
  chars.map fun c => UInt8.ofNat c.toNat

namespace Search

/-- The letters of the flags, without and with values. -/
def flags : FlagSet :=
  ⟨"EFGqvcinlLoxwshHay", "em", false⟩

/-- The expression that a text is, in the way that flags ask for. -/
def regexOfText (flagged : Flagged) (text : List Char) : Except Regex.Fault Regex := do
  let regex ←
    if flagged.has 'F' then .ok (Regex.ofChars text)
    else Regex.ofText (if flagged.has 'E' then .extended else .basic) text
  if flagged.has 'x' then
    return .sequence (.between .lineStart) (.sequence regex (.between .lineEnd))
  else if flagged.has 'w' then
    return .sequence (.between .noWordBefore) (.sequence regex (.between .noWordAfter))
  else return regex

/-- The expression for texts, each line of which is a choice. -/
def regexOfTexts (flagged : Flagged) (texts : List String) : Except Regex.Fault Regex := do
  let lines := texts.flatMap fun text => text.splitOn "\n"
  let choices ← lines.mapM fun line => regexOfText flagged (charsOfBytes line.toUTF8.toList)
  match choices with
  | [] => return .empty
  | first :: rest => return rest.foldl .choice first

/-- The parts of a line that an expression matches, up to the given number; empty ones do not
count. -/
def matchesIn (regex : Regex) (ignoresCase : Bool) : Nat → Spot → List (List Char)
  | 0, _ => []
  | fuel + 1, spot =>
    match regex.findFrom? ignoresCase spot.before spot.after with
    | none => []
    | some (first, last) =>
      if first.after.length = last.after.length then
        match first.step fun _ => true with
        | next :: _ => matchesIn regex ignoresCase fuel next
        | [] => []
      else first.upTo last :: matchesIn regex ignoresCase fuel last

/-- Selects lines, at most the given number of them. -/
def select (isSelected : List Char → Bool) (most : Option Nat) (lines : List (List Char)) :
    List (Nat × List Char) :=
  let selected := (lines.zipIdx 1).filterMap fun (line, number) =>
    if isSelected line then some (number, line) else none
  match most with
  | some most => selected.take most
  | none => selected

/-- Writes what was selected in a file under a name. -/
def report (flagged : Flagged) (regex : Regex) (hasName : Bool) (name : String)
    (selected : List (Nat × List Char)) : Running Unit := do
  let ignoresCase := flagged.has 'i' || flagged.has 'y'
  let mark := if hasName then name ++ ":" else ""
  let naming := flagged.flags.find? fun flag => flag.1 = 'l' || flag.1 = 'L'
  if flagged.has 'q' then return
  else if let some flag := naming then
    if selected.isEmpty = (flag.1 = 'L') then writeText (name ++ "\n")
  else if flagged.has 'c' then writeText (mark ++ toString selected.length ++ "\n")
  else
    for (number, line) in selected do
      let parts :=
        if !flagged.has 'o' then [line]
        else if flagged.has 'v' then []
        else matchesIn regex ignoresCase (line.length + 1) (.start line)
      let front := mark ++ if flagged.has 'n' then toString number ++ ":" else ""
      for part in parts do
        writeBytes (front.toUTF8.toList ++ bytesOfChars part ++ [lineFeed])

/-- Searches files for an expression. -/
def searchFiles (flagged : Flagged) (regex : Regex) (names : List String) : Running Nat := do
  let ignoresCase := flagged.has 'i' || flagged.has 'y'
  let isSelected := fun (line : List Char) =>
    (regex.find? ignoresCase line).isSome != flagged.has 'v'
  let most := (flagged.value? 'm').bind fun text => naturalOf? text.toList
  let hasName := 1 < names.length && !flagged.has 'h' || flagged.has 'H'
  let mut found := false
  let mut failed := false
  for (name, content) in ← contentsOf names do
    if found && flagged.has 'q' then return 0
    let shown := if name = "-" then "(standard input)" else name
    match content with
    | .ok bytes =>
      let lines := (linesOf bytes).map fun line => charsOfBytes (bareLine line)
      let selected := select isSelected most lines
      if !selected.isEmpty then found := true
      report flagged regex hasName shown selected
    | .error words =>
      if !flagged.has 's' then complain ("grep: " ++ name ++ ": " ++ words)
      if words = FileFault.isFolder.words then report flagged regex hasName shown []
      failed := true
  return if found && flagged.has 'q' then 0 else if failed then 2 else if found then 0 else 1

end Search

/-- How to use the program. -/
def Search.usage : String :=
  "Usage: grep [OPTION]... PATTERNS [FILE]...\nTry 'grep --help' for more information."

/-- Searches files for the lines that an expression matches a part of. -/
def searchTexts : Utility := fun arguments => do
  match Flagged.ofArguments Search.flags arguments with
  | .error fault =>
    complain ("grep: " ++ fault.words ++ "\n" ++ Search.usage)
    return 2
  | .ok flagged =>
    let given := (flagged.flags.filter (·.1 = 'e')).map Prod.snd
    match given, flagged.others with
    | [], [] =>
      complain Search.usage
      return 2
    | [], text :: names => run flagged [text] names
    | texts, names => run flagged texts names
where
  run (flagged : Flagged) (texts names : List String) : Running Nat := do
    match Search.regexOfTexts flagged texts with
    | .ok regex => Search.searchFiles flagged regex names
    | .error fault =>
      complain ("grep: " ++ fault.message)
      return 2

end CompileServer.Shell
