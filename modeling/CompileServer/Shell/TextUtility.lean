import CompileServer.Shell.Flags
import CompileServer.Shell.Pattern
import CompileServer.Shell.Utility

/-!
# Utilities for texts

Programs that read texts and write them changed.  They work on bytes, and a line is what
stands before a line feed.
-/

namespace CompileServer.Shell

/-- The byte that ends lines. -/
def lineFeed : UInt8 := 0x0a

/-- The lines of some bytes, each with the line feed that ends it; the last one may have
none. -/
def linesOf (bytes : List UInt8) : List (List UInt8) :=
  bytes.foldr
    (fun byte lines =>
      if byte = lineFeed then [byte] :: lines
      else match lines with
        | line :: rest => (byte :: line) :: rest
        | [] => [[byte]])
    []

/-- A line without the line feed that ends it. -/
def bareLine (line : List UInt8) : List UInt8 :=
  line.filter (· ≠ lineFeed)

/-- Runs a program that takes flags; other flags are refused. -/
def withFlags (name : String) (known : FlagSet) (body : Flagged → Running Nat) : Utility :=
  fun arguments => do
    match Flagged.ofArguments known arguments with
    | .ok flagged => body flagged
    | .error fault =>
      complain (fault.message name)
      return 1

/-- Refuses arguments. -/
def refuseUse (name text : String) : Running Nat := do
  complain (name ++ ": " ++ text ++ "\nTry '" ++ name ++ " --help' for more information.")
  return 1

/-- The contents of some files, or of the input if no file is named, or the words for why they
cannot be read. -/
def contentsOf (names : List String) : Running (List (String × Except String (List UInt8))) :=
  (if names.isEmpty then ["-"] else names).mapM fun name => do
    let content ← if name = "-" then readInput else readFile name
    return (name, content.map (·.toList))

/-- The contents of some files one after the other, and the status of reading them. -/
def allContents (program : String) (names : List String) : Running (List UInt8 × Nat) := do
  let mut status := 0
  let mut bytes := []
  for (name, content) in ← contentsOf names do
    match content with
    | .ok content => bytes := bytes ++ content
    | .error words =>
      complain (program ++ ": " ++ name ++ ": " ++ words)
      status := 1
  return (bytes, status)

/-- Leaves bytes of the input to others, if they can be read again. -/
def giveBack (bytes : List UInt8) : Running Unit := do
  let process ← get
  match process.channel? 0 with
  | some (.source _ true) => set (process.keepUnread 0 ⟨bytes.toArray⟩)
  | _ => return

/-- A count of lines or bytes and the sign in front of it. -/
structure Count where
  sign : Option Char
  number : Nat

/-- The count that a text stands for. -/
def Count.ofText? (text : String) : Option Count :=
  match text.toList with
  | '-' :: digits => (naturalOf? digits).map fun number => ⟨some '-', number⟩
  | '+' :: digits => (naturalOf? digits).map fun number => ⟨some '+', number⟩
  | digits => (naturalOf? digits).map fun number => ⟨none, number⟩

/-- Arguments where a count after a dash stands for a count of lines. -/
def withoutShortCount (arguments : List String) : List String :=
  match arguments.head?.map String.toList with
  | some ('-' :: c :: digits) =>
    if (c :: digits).all Char.isDigit then
      "-n" :: String.ofList (c :: digits) :: arguments.tail
    else arguments
  | _ => arguments

/-- Writes parts of files under their names; `cut` gives the part that a count asks for and the
rest that was not read. -/
def writeParts (program : String)
    (cut : Count → List (List UInt8) → List (List UInt8) × List (List UInt8)) : Utility :=
  fun arguments =>
    withFlags program ⟨"qv", "nc", false⟩ (fun flagged => do
      let byBytes := flagged.has 'c'
      let text := (flagged.value? (if byBytes then 'c' else 'n')).getD "10"
      match Count.ofText? text with
      | none =>
        let unit := if byBytes then "bytes" else "lines"
        complain (program ++ ": invalid number of " ++ unit ++ ": '" ++ text ++ "'")
        return 1
      | some count =>
        let hasHeads := 1 < flagged.others.length && !flagged.has 'q' || flagged.has 'v'
        let mut status := 0
        let mut gap := ""
        for (name, content) in ← contentsOf flagged.others do
          match content with
          | .ok bytes =>
            let shown := if name = "-" then "standard input" else name
            if hasHeads then writeText (gap ++ "==> " ++ shown ++ " <==\n")
            gap := "\n"
            let (part, rest) := cut count (if byBytes then bytes.map ([·]) else linesOf bytes)
            writeBytes part.flatten
            if name = "-" then giveBack rest.flatten
          | .error words =>
            complain (program ++ ": cannot open '" ++ name ++ "' for reading: " ++ words)
            status := 1
        return status)
      (withoutShortCount arguments)

/-- Writes the first lines of files. -/
def head : Utility :=
  writeParts "head" fun count units =>
    let kept := match count.sign with
      | some '-' => units.length - count.number
      | _ => count.number
    (units.take kept, units.drop kept)

/-- Writes the last lines of files. -/
def tail : Utility :=
  writeParts "tail" fun count units =>
    match count.sign with
    | some '+' => (units.drop (count.number - 1), [])
    | _ => (units.drop (units.length - count.number), [])

/-- The number of words in some bytes. -/
def countWords (bytes : List UInt8) : Nat :=
  let isSpace := fun (byte : UInt8) => byte = 0x20 || 0x09 ≤ byte && byte ≤ 0x0d
  (bytes.splitBy fun a b => isSpace a = isSpace b).countP fun run => !run.all isSpace

/-- Counts the lines, words and bytes of files. -/
def wordCount : Utility :=
  withFlags "wc" ⟨"lwcm", "", false⟩ fun flagged => do
    let isWanted := fun (letter : Char) =>
      flagged.has letter || flagged.flags.isEmpty || letter = 'c' && flagged.has 'm'
    let count := fun (bytes : List UInt8) =>
      [('l', bytes.countP (· = lineFeed)), ('w', countWords bytes), ('c', bytes.length)].filterMap
        fun (letter, number) => if isWanted letter then some number else none
    let contents ← contentsOf flagged.others
    let isPipe ← do
      let process ← get
      match process.channel? 0 with
      | some (.source _ false) => pure (contents.any fun entry => entry.1 = "-")
      | _ => pure false
    let sizeIn := fun (content : Except String (List UInt8)) =>
      match content with
      | .ok bytes => bytes.length
      | .error _ => 0
    let total := contents.foldl (fun sum entry => sum + sizeIn entry.2) 0
    let columns := (count []).length
    let width :=
      if columns = 1 && contents.length = 1 then 1
      else if isPipe then 7 else (toString total).length
    let showCounts := fun (numbers : List Nat) (name : String) => do
      let texts := numbers.map fun number =>
        let digits := toString number
        "".pushn ' ' (width - digits.length) ++ digits
      writeText (" ".intercalate texts ++ (if name = "" then "" else " " ++ name) ++ "\n")
    let mut status := 0
    let mut sums := count []
    for (name, content) in contents do
      match content with
      | .ok bytes =>
        showCounts (count bytes) (if flagged.others.isEmpty then "" else name)
        sums := List.zipWith (· + ·) sums (count bytes)
      | .error words =>
        complain ("wc: " ++ name ++ ": " ++ words)
        status := 1
    if 1 < contents.length then showCounts sums "total"
    return status

/-- The bytes of a kind of characters. -/
def bytesOfKind (name : String) : List UInt8 :=
  ((List.range 128).filter fun n => isOfKind name (Char.ofNat n)).map UInt8.ofNat

/-- The bytes of a set of characters: ranges, kinds, and escapes. -/
def setBytes : Nat → List UInt8 → List UInt8
  | 0, _ => []
  | _, [] => []
  | fuel + 1, 0x5b :: 0x3a :: rest =>
    let name := rest.takeWhile (· ≠ 0x3a)
    bytesOfKind (Text.ofBytes name) ++ setBytes fuel (rest.drop (name.length + 2))
  | fuel + 1, 0x5c :: rest =>
    match scanEscape ((rest.take 3).map fun byte => Char.ofNat byte.toNat) with
    | some (bytes, after) =>
      bytes ++ setBytes fuel (rest.drop ((rest.take 3).length - after.length))
    | none => rest.take 1 ++ setBytes fuel (rest.drop 1)
  | fuel + 1, low :: 0x2d :: high :: rest =>
    ((List.range (high.toNat + 1)).drop low.toNat).map UInt8.ofNat ++ setBytes fuel rest
  | fuel + 1, byte :: rest => byte :: setBytes fuel rest

/-- The bytes of a set that a text describes. -/
def setOf (text : String) : List UInt8 :=
  let bytes := text.toUTF8.toList
  setBytes (bytes.length + 1) bytes

/-- One of several equal bytes of a set that follow each other. -/
def squeeze (set : List UInt8) : List UInt8 → List UInt8
  | a :: b :: rest =>
    if a = b && set.contains a then squeeze set (b :: rest) else a :: squeeze set (b :: rest)
  | bytes => bytes

/-- Replaces the bytes of a set by those of another, the last of which stands for all that
follow. -/
def replaceBytes (old new : List UInt8) (bytes : List UInt8) : List UInt8 :=
  bytes.map fun byte =>
    match old.idxOf? byte with
    | some index => new.getD index (new.getLastD byte)
    | none => byte

/-- Replaces or deletes characters of the input. -/
def replaceChars : Utility :=
  withFlags "tr" ⟨"cCds", "", true⟩ fun flagged => do
    let complement := fun (set : List UInt8) =>
      if flagged.has 'c' || flagged.has 'C' then
        ((List.range 256).map UInt8.ofNat).filter fun byte => !set.contains byte
      else set
    let sets := flagged.others.map setOf
    let change : Option (List UInt8 → List UInt8) :=
      match sets with
      | [first] =>
        let first := complement first
        if flagged.has 'd' then some fun bytes => bytes.filter fun byte => !first.contains byte
        else if flagged.has 's' then some (squeeze first)
        else none
      | [first, second] =>
        let first := complement first
        if flagged.has 'd' then
          some fun bytes => squeeze second (bytes.filter fun byte => !first.contains byte)
        else
          let squeezed := if flagged.has 's' then second else []
          some fun bytes => squeeze squeezed (replaceBytes first second bytes)
      | _ => none
    match change, flagged.others with
    | some change, _ =>
      writeBytes (change (← readAll).toList)
      return 0
    | none, [] => refuseUse "tr" "missing operand"
    | none, [first] =>
      refuseUse "tr" ("missing operand after '" ++ first
        ++ "'\nTwo strings must be given when translating.")
    | none, _ => refuseUse "tr" ("extra operand '" ++ flagged.others.getD 2 "" ++ "'")

/-- Writes whole numbers from one to another. -/
def sequence : Utility := fun arguments => do
  let (options, numbers) := match arguments with
    | "-w" :: rest => ((true, "\n"), rest)
    | "-s" :: gap :: rest => ((false, gap), rest)
    | first :: rest =>
      if first.startsWith "-s" then ((false, (first.drop 2).toString), rest)
      else ((false, "\n"), first :: rest)
    | [] => ((false, "\n"), [])
  match numbers.find? fun text => (wholeNumber? text).isNone with
  | some text => refuseUse "seq" ("invalid floating point argument: '" ++ text ++ "'")
  | none =>
    let run := fun (first step last : Int) => do
      if step = 0 then
        refuseUse "seq" "invalid Zero increment value: '0'"
      else
        let count :=
          if 0 < step then (last - first + step) / step else (first - last - step) / -step
        let values := (List.range count.toNat).map fun (n : Nat) => toString (first + n * step)
        let width := (values.map String.length).foldl max 0
        let texts := if options.1 then
          values.map fun text => "".pushn '0' (width - text.length) ++ text else values
        if !texts.isEmpty then writeText (options.2.intercalate texts ++ "\n")
        return 0
    match numbers.filterMap wholeNumber? with
    | [last] => run 1 1 last
    | [first, last] => run first 1 last
    | [first, step, last] => run first step last
    | [] => refuseUse "seq" "missing operand"
    | _ => refuseUse "seq" ("extra operand '" ++ numbers.getD 3 "" ++ "'")

/-- Whether a line is not after another in the order of their bytes. -/
def inOrder (a b : List UInt8) : Bool :=
  !decide (bareLine b < bareLine a)

/-- The whole number at the start of a line. -/
def leadingNumber (line : List UInt8) : Int :=
  let chars := (line.map fun byte => Char.ofNat byte.toNat).dropWhile isGap
  match chars with
  | '-' :: rest => -(valueOfDigits 10 (rest.takeWhile Char.isDigit) : Int)
  | chars => valueOfDigits 10 (chars.takeWhile Char.isDigit)

/-- Lines where equal ones that follow each other appear once. -/
def withoutRepeats (equal : List UInt8 → List UInt8 → Bool) : List (List UInt8) →
    List (List UInt8)
  | a :: b :: rest =>
    if equal a b then withoutRepeats equal (a :: rest) else a :: withoutRepeats equal (b :: rest)
  | lines => lines
termination_by lines => lines.length

/-- Writes the lines of files in order. -/
def sortLines : Utility :=
  withFlags "sort" ⟨"rnu", "", false⟩ fun flagged => do
    let (bytes, status) ← allContents "sort" flagged.others
    let lines := (linesOf bytes).map bareLine
    let upTo := fun (a b : List UInt8) =>
      if flagged.has 'n' then
        decide (leadingNumber a < leadingNumber b)
          || leadingNumber a = leadingNumber b && (flagged.has 'u' || inOrder a b)
      else inOrder a b
    let sorted := lines.mergeSort fun a b => if flagged.has 'r' then upTo b a else upTo a b
    let kept := if flagged.has 'u' then withoutRepeats (fun a b => upTo a b && upTo b a) sorted
      else sorted
    writeBytes (kept.flatMap fun line => line ++ [lineFeed])
    return if status = 0 then 0 else 2

/-- Writes the lines of a file without those that repeat the line before. -/
def uniqueLines : Utility :=
  withFlags "uniq" ⟨"cdu", "", false⟩ fun flagged => do
    let (bytes, status) ← allContents "uniq" (flagged.others.take 1)
    let groups := ((linesOf bytes).map bareLine).splitBy fun a b => a = b
    for group in groups do
      let isKept := (!flagged.has 'd' || 1 < group.length) && (!flagged.has 'u' || group.length = 1)
      if isKept then
        if flagged.has 'c' then
          let digits := toString group.length
          writeText ("".pushn ' ' (7 - digits.length) ++ digits ++ " ")
        writeBytes (group.headD [] ++ [lineFeed])
    return status

/-- The positions that a list of ranges selects; positions start at one. -/
def selects (ranges : String) (position : Nat) : Bool :=
  (ranges.splitOn ",").any fun range =>
    match range.splitOn "-" with
    | [one] => naturalOf? one.toList = some position
    | [low, high] =>
      (low = "" || (naturalOf? low.toList).any (· ≤ position))
        && (high = "" || (naturalOf? high.toList).any (position ≤ ·))
    | _ => false

/-- Some items at the positions that a list of ranges selects. -/
def selected {β : Type} (ranges : String) (items : List β) : List β :=
  (items.zipIdx 1).filterMap fun (item, position) =>
    if selects ranges position then some item else none

/-- The fields of a line between separators. -/
def fieldsOf (separator : UInt8) (line : List UInt8) : List (List UInt8) :=
  line.foldr
    (fun byte fields =>
      if byte = separator then [] :: fields
      else match fields with
        | field :: rest => (byte :: field) :: rest
        | [] => [[byte]])
    [[]]

/-- Writes parts of lines. -/
def cutLines : Utility :=
  withFlags "cut" ⟨"s", "dfcb", false⟩ fun flagged => do
    let change : Option (List UInt8 → Option (List UInt8)) :=
      match flagged.value? 'f', flagged.value? 'c', flagged.value? 'b' with
      | some ranges, _, _ =>
        let separator := ((flagged.value? 'd').getD "\t").toUTF8.toList.headD 0x09
        some fun line =>
          if line.contains separator then
            some ([separator].intercalate (selected ranges (fieldsOf separator line)))
          else if flagged.has 's' then none else some line
      | none, some ranges, _ => some fun line => some (selected ranges line)
      | none, none, some ranges => some fun line => some (selected ranges line)
      | none, none, none => none
    match change with
    | none => refuseUse "cut" "you must specify a list of bytes, characters, or fields"
    | some change =>
      let (bytes, status) ← allContents "cut" flagged.others
      for line in linesOf bytes do
        match change (bareLine line) with
        | some part => writeBytes (part ++ [lineFeed])
        | none => pure ()
      return status

/-- Writes the lines of files, the last one first. -/
def reverseLines : Utility :=
  withFlags "tac" ⟨"", "", false⟩ fun flagged => do
    let (bytes, status) ← allContents "tac" flagged.others
    writeBytes (linesOf bytes).reverse.flatten
    return status

/-- Writes each line of files from its end to its start. -/
def reverseChars : Utility :=
  withFlags "rev" ⟨"", "", false⟩ fun flagged => do
    let (bytes, status) ← allContents "rev" flagged.others
    for line in linesOf bytes do
      let text := Text.ofBytes (bareLine line)
      writeText (String.ofList text.toList.reverse)
      writeBytes (line.filter (· = lineFeed))
    return status

/-- The programs for texts, by name. -/
def textPrograms : List (String × Utility) :=
  [("head", head), ("tail", tail), ("wc", wordCount), ("tr", replaceChars), ("seq", sequence),
    ("sort", sortLines), ("uniq", uniqueLines), ("cut", cutLines), ("tac", reverseLines),
    ("rev", reverseChars)]

end CompileServer.Shell
