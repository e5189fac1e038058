import CompileServer.Shell.EditScript
import CompileServer.Shell.Search

/-!
# Editing texts

The program that runs the commands of an edit script for each line of its input and writes
what becomes of the line.
-/

namespace CompileServer.Shell

/-- A line, and whether a line feed ends it. -/
abbrev Line := List Char × Bool

/-- Two lines in one, with a line feed between them. -/
def Line.join (first second : Line) : Line :=
  (first.1 ++ '\n' :: second.1, first.2 || second.2)

/-- The work of an editor. -/
structure Editor where
  /-- The text at hand, and whether a line feed ends it. -/
  line : Line
  /-- The number of the line at hand. -/
  number : Nat
  /-- The lines that are not read yet. -/
  input : List Line
  /-- The text that is kept for later. -/
  kept : Line
  /-- What is to be written before the next line is read. -/
  pending : List Line
  /-- Whether a match was replaced since the line was read. -/
  hasReplaced : Bool
  /-- The positions of the commands for lines in a row that are being read, with the number of the
  last of these lines if it is known. -/
  active : List (Nat × Option Nat)
  /-- The expression that was looked for last. -/
  lastSought : Sought
  /-- What was written, the last line first. -/
  output : List Line

/-- How the work goes on after a command. -/
inductive AfterEdit where
  | goesOn
  | jumps (label : List Char)
  /-- The commands are done with this line. -/
  | isDone
  /-- The commands are done with this line, and it is not written. -/
  | isDropped
  /-- The commands start again without reading a line. -/
  | startsAgain
  /-- The work ends with a status, after the line is finished or at once. -/
  | quits (finishes : Bool) (status : Nat)

namespace Editor

/-- The work at its start. -/
def start (input : List Line) : Editor :=
  ⟨([], true), 0, input, ([], true), [], false, [], none, []⟩

/-- Writes a line. -/
def put (editor : Editor) (line : Line) : Editor :=
  { editor with output := line :: editor.output }

/-- Writes a text, which has its line feeds in it. -/
def putText (editor : Editor) (text : List Char) : Editor :=
  editor.put (text.dropLast, true)

/-- Writes the text at hand. -/
def putLine (editor : Editor) : Editor :=
  editor.put editor.line

/-- Writes what is to be written before the next line. -/
def flush (editor : Editor) : Editor :=
  { editor with output := editor.pending.reverse ++ editor.output, pending := [] }

/-- Reads the next line, if there is one. -/
def next? (editor : Editor) : Option Editor :=
  match editor.flush, editor.input with
  | flushed, line :: rest =>
    some { flushed with line := line, number := editor.number + 1, input := rest }
  | _, [] => none

/-- The bytes of what was written.  A line that no line feed ended gets one if more follows. -/
def written (editor : Editor) : List Char :=
  editor.output.foldl
    (fun rest line =>
      line.1 ++ if line.2 || !rest.isEmpty then '\n' :: rest else rest)
    []

/-- The first match of what is sought at or after a place, and the work with the expression
noted. -/
def look (editor : Editor) (sought : Sought) (spot : Spot) : Option (Spot × Spot) × Editor :=
  match sought <|> editor.lastSought with
  | some (regex, ignoresCase) =>
    (regex.findFrom? ignoresCase spot.before spot.after,
      { editor with lastSought := some (regex, ignoresCase) })
  | none => (none, editor)

/-- Whether a line is at an address, and the work after looking. -/
def isAt (editor : Editor) : Address → Bool × Editor
  | .line number => (editor.number = number, editor)
  | .every first step =>
    let isHit := if step = 0 then editor.number = first
      else first ≤ editor.number && (editor.number - first) % step = 0
    (isHit, editor)
  | .last => (editor.input.isEmpty, editor)
  | .matching sought =>
    let (found, editor) := editor.look sought (.start editor.line.1)
    (found.isSome, editor)

/-- Notes that lines in a row are read for the command at a position, or that no more are. -/
def note (editor : Editor) (position : Nat) (mark : Option (Option Nat)) : Editor :=
  let others := editor.active.filter fun entry => entry.1 ≠ position
  { editor with active := (mark.map fun last => (position, last)).toList ++ others }

/-- Whether the line at hand is the first of lines in a row, of which the last is to be found. -/
def opens (editor : Editor) (position : Nat) (first : Address) (last : RangeEnd) :
    Bool × Editor :=
  match editor.isAt first with
  | (false, editor) => (false, editor)
  | (true, editor) =>
    match last with
    | .after 0 => (true, editor)
    | .after count => (true, editor.note position (some (some (editor.number + count))))
    | .at (.line number) =>
      if number ≤ editor.number then (true, editor)
      else (true, editor.note position (some (some number)))
    | .at _ => (true, editor.note position (some none))

/-- Whether the line at hand is one of lines in a row that were being read. -/
def continues (editor : Editor) (position : Nat) (known : Option Nat) (last : RangeEnd) :
    Bool × Editor :=
  match known, last with
  | some number, _ =>
    (editor.number ≤ number,
      if number ≤ editor.number then editor.note position none else editor)
  | none, .at address =>
    let (isLast, editor) := editor.isAt address
    (true, if isLast then editor.note position none else editor)
  | none, .after _ => (true, editor)

/-- Whether the command at a position is for the line at hand. -/
def selects (editor : Editor) (position : Nat) (lines : LineSet) : Bool × Editor :=
  let (isIn, editor) :=
    match lines.first, lines.last with
    | none, _ => (true, editor)
    | some first, none => editor.isAt first
    | some first, some last =>
      match editor.active.lookup position, first with
      | some known, _ => editor.continues position known last
      | none, .line 0 =>
        if editor.number = 1 then editor.continues position none last else (false, editor)
      | none, first => editor.opens position first last
  (isIn != lines.negated, editor)

/-- What takes the place of a match. -/
def fill (parts : List Substitute) (first last : Spot) : List Char :=
  parts.flatMap fun part =>
    match part with
    | .char c => [c]
    | .group 0 => first.upTo last
    | .group number => (last.groups.lookup number).getD []

/-- The text from a place on with matches replaced, and whether there were any.  `skipped` is the
number of matches that are left alone, and `since` tells whether a match ended here. -/
def replaceFrom (regex : Regex) (ignoresCase : Bool) (parts : List Substitute) (all : Bool) :
    Nat → Nat → Bool → Spot → List Char × Bool
  | 0, _, _, spot => (spot.after, false)
  | fuel + 1, skipped, since, spot =>
    match regex.findFrom? ignoresCase spot.before spot.after with
    | none => (spot.after, false)
    | some (first, last) =>
      let isEmpty := first.after.length = last.after.length
      let isAgain := isEmpty && since && first.after.length = spot.after.length
      let between := spot.upTo first
      let isReplaced := !isAgain && skipped = 0
      let part := if isReplaced then fill parts first last else first.upTo last
      if isReplaced && !all then (between ++ part ++ last.after, true)
      else
        let left := if isAgain then skipped else skipped - 1
        let (step, next) :=
          if isEmpty then match last.after with
            | c :: rest => ([c], { last with before := c :: last.before, after := rest })
            | [] => ([], last)
          else ([], last)
        if isEmpty && last.after.isEmpty then (between ++ part, isReplaced)
        else
          let (rest, others) :=
            replaceFrom regex ignoresCase parts all fuel left (!isEmpty) next
          (between ++ part ++ step ++ rest, isReplaced || others)

/-- Replaces matches in the text at hand. -/
def replace (editor : Editor) (sought : Sought) (parts : List Substitute) (first : Nat)
    (all prints : Bool) : Editor :=
  match sought <|> editor.lastSought with
  | none => editor
  | some (regex, ignoresCase) =>
    let text := editor.line.1
    let (text, isReplaced) :=
      replaceFrom regex ignoresCase parts all (text.length + 2) (first - 1) false (.start text)
    let editor := { editor with lastSought := some (regex, ignoresCase) }
    if isReplaced then
      let replaced :=
        { editor with line := (text, editor.line.2), hasReplaced := true }
      if prints then replaced.putLine else replaced
    else editor

/-- Changes the text at hand. -/
def withText (editor : Editor) (text : List Char) : Editor :=
  { editor with line := (text, editor.line.2) }

/-- Carries out a command that is for the line at hand; `files` gives the contents of files, and
`prints` says whether lines are written when the commands are done with them. -/
def perform (files : FileSystem) (prints : Bool) (position : Nat) (lines : LineSet)
    (editor : Editor) : Edit → AfterEdit × Editor
  | .replace sought parts first all prints =>
    (.goesOn, editor.replace sought parts first all prints)
  | .exchangeChars pairs =>
    (.goesOn, editor.withText (editor.line.1.map fun c => (pairs.lookup c).getD c))
  | .delete => (.isDropped, editor)
  | .deleteFirstLine =>
    match editor.line.1.dropWhile (· ≠ '\n') with
    | _ :: rest => (.startsAgain, editor.withText rest)
    | [] => (.isDropped, editor)
  | .print => (.goesOn, editor.putLine)
  | .printFirstLine =>
    let text := editor.line.1
    let line := if text.contains '\n' then (text.takeWhile (· ≠ '\n'), true) else editor.line
    (.goesOn, editor.put line)
  | .printNumber => (.goesOn, editor.put ((toString editor.number).toList, true))
  | .readNext =>
    let shown := if prints && !editor.input.isEmpty then editor.putLine else editor
    match shown.next? with
    | some next => (.goesOn, next)
    | none => (.isDone, editor)
  | .joinNext =>
    match editor.next? with
    | some next =>
      (.goesOn, { next with line := (editor.line.1 ++ '\n' :: next.line.1, next.line.2) })
    | none => (.isDone, editor)
  | .keep joins =>
    let kept :=
      if joins then editor.kept.join editor.line else editor.line
    (.goesOn, { editor with kept := kept })
  | .fetch joins =>
    let line :=
      if joins then editor.line.join editor.kept else editor.kept
    (.goesOn, { editor with line := line })
  | .swap => (.goesOn, { editor with line := editor.kept, kept := editor.line })
  | .putBefore text => (.goesOn, editor.putText text)
  | .putAfter text =>
    (.goesOn, { editor with pending := editor.pending ++ [(text.dropLast, true)] })
  | .change text =>
    let isLast := lines.negated || (editor.active.lookup position).isNone
    (.isDropped, if isLast then editor.putText text else editor)
  | .putFile name =>
    let content := match files.read ⟨String.ofList name⟩ with
      | .ok content => linesOf content.toList
      | .error _ => []
    let found := content.map fun line => (charsOfBytes (bareLine line), line.contains lineFeed)
    (.goesOn, { editor with pending := editor.pending ++ found })
  | .quit finishes status => (.quits finishes status, editor)
  | .block => (.goesOn, editor)
  | .endOfBlock => (.goesOn, editor)
  | .label _ => (.goesOn, editor)
  | .jump when name =>
    let jumps := match when with
      | .always => true
      | .ifReplaced => editor.hasReplaced
      | .ifNotReplaced => !editor.hasReplaced
    let after := if when = .always then editor else { editor with hasReplaced := false }
    (if !jumps then .goesOn else if name.isEmpty then .isDone else .jumps name, after)

/-- The number of commands up to the end of the block that starts in front of them. -/
def blockLength : Nat → List Instruction → Nat
  | _, [] => 0
  | depth, instruction :: rest =>
    match instruction.edit, depth with
    | .endOfBlock, 0 => 1
    | .endOfBlock, depth + 1 => blockLength depth rest + 1
    | .block, depth => blockLength (depth + 1) rest + 1
    | _, depth => blockLength depth rest + 1

/-- The position after a command that is not for the line at hand. -/
def skip (script : List Instruction) (position : Nat) (edit : Edit) : Nat :=
  match edit with
  | .block => position + 1 + blockLength 0 (script.drop (position + 1))
  | _ => position + 1

/-- The position of a label. -/
def positionOf (script : List Instruction) (name : List Char) : Nat :=
  script.findIdx fun instruction =>
    match instruction.edit with
    | .label label => label = name
    | _ => false

/-- Finishes the line at hand. -/
def finish (editor : Editor) (prints : Bool) : Editor :=
  (if prints then editor.putLine else editor).flush

/-- Runs a script for all lines, in at most so many steps; the status is given as well.  Without a
position the next line is read. -/
def run (files : FileSystem) (prints : Bool) (script : List Instruction) :
    Nat → Option Nat → Editor → Editor × Option Nat
  | 0, _, editor => (editor, none)
  | fuel + 1, none, editor =>
    match editor.next? with
    | some next => run files prints script fuel (some 0) { next with hasReplaced := false }
    | none => (editor, none)
  | fuel + 1, some position, editor =>
    match script[position]? with
    | none => run files prints script fuel none (editor.finish prints)
    | some ⟨lines, edit⟩ =>
      match editor.selects position lines with
      | (false, editor) => run files prints script fuel (some (skip script position edit)) editor
      | (true, editor) =>
        match editor.perform files prints position lines edit with
        | (.goesOn, editor) => run files prints script fuel (some (position + 1)) editor
        | (.jumps name, editor) =>
          run files prints script fuel (some (positionOf script name)) editor
        | (.isDone, editor) => run files prints script fuel none (editor.finish prints)
        | (.isDropped, editor) => run files prints script fuel none editor.flush
        | (.startsAgain, editor) => run files prints script fuel (some 0) editor.flush
        | (.quits true status, editor) => (editor.finish prints, some status)
        | (.quits false status, editor) => (editor, some status)

/-- The most steps that are made. -/
def stepLimit : Nat := 1000000

end Editor

namespace EditProgram

/-- The letters of the flags, without and with values. -/
def flags : FlagSet :=
  ⟨"nErsiu", "e", false⟩

/-- The lines of some bytes. -/
def linesIn (bytes : List UInt8) : List Line :=
  (linesOf bytes).map fun line => (charsOfBytes (bareLine line), line.contains lineFeed)

/-- Edits files in place, one after the other. -/
def editInPlace (prints : Bool) (script : List Instruction) (names : List String) :
    Running Nat := do
  let mut status := 0
  for name in names do
    match ← readFile name with
    | .error words =>
      complain ("sed: can't read " ++ name ++ ": " ++ words)
      status := 2
    | .ok content =>
      let process ← get
      let (editor, quit) :=
        Editor.run process.files prints script Editor.stepLimit none
          (.start (linesIn content.toList))
      let bytes := bytesOfChars editor.written
      match process.files.write ⟨name⟩ ⟨bytes.toArray⟩, quit with
      | .ok files, none => set { process with files := files }
      | .ok files, some code =>
        set { process with files := files }
        return max code status
      | .error fault, _ =>
        complain ("sed: couldn't open file " ++ name ++ ": " ++ fault.words)
        return 4
  return status

/-- The lines of files one after the other; only the last line of all may have no line feed at its
end.  The message about a file that cannot be read comes with the number of lines before it. -/
def joinLines : List (String × Except String (List UInt8)) → Nat →
    List Line × List (Nat × String)
  | [], _ => ([], [])
  | (name, .error words) :: rest, count =>
    let text := if words = FileFault.isFolder.words then "read error on " ++ name
      else "can't read " ++ name
    let (lines, faults) := joinLines rest count
    (lines, (count, "sed: " ++ text ++ ": " ++ words) :: faults)
  | (_, .ok bytes) :: rest, count =>
    let own := linesIn bytes
    let (lines, faults) := joinLines rest (count + own.length)
    let ended := if rest.isEmpty then own else own.map fun line => (line.1, true)
    (ended ++ lines, faults)

/-- Edits files, or the input, and writes the result. -/
def editAll (prints : Bool) (script : List Instruction) (names : List String) : Running Nat := do
  let (lines, faults) := joinLines (← contentsOf names) 0
  let (editor, quit) :=
    Editor.run (← get).files prints script Editor.stepLimit none (.start lines)
  writeBytes (bytesOfChars editor.written)
  let met := faults.filter fun fault => quit.isNone || fault.1 < editor.number
  for fault in met do
    complain fault.2
  return max (quit.getD 0) (if met.isEmpty then 0 else 2)

/-- Runs the script that arguments give. -/
def run (flagged : Flagged) (script : String) (names : List String) : Running Nat := do
  let dialect : Regex.Dialect :=
    if flagged.has 'E' || flagged.has 'r' then .extended else .basic
  match EditScript.read dialect (charsOfBytes script.toUTF8.toList) with
  | .error words =>
    complain ("sed: " ++ words)
    return 1
  | .ok instructions =>
    let prints := !flagged.has 'n'
    if flagged.has 'i' then editInPlace prints instructions names
    else editAll prints instructions names

end EditProgram

/-- Edits files by the commands of a script. -/
def editTexts : Utility :=
  withFlags "sed" EditProgram.flags fun flagged => do
    let given := (flagged.flags.filter (·.1 = 'e')).map Prod.snd
    match given.reverse, flagged.others with
    | [], [] => refuseUse "sed" "no script specified"
    | [], script :: names => EditProgram.run flagged script names
    | scripts, names => EditProgram.run flagged ("\n".intercalate scripts) names

end CompileServer.Shell
