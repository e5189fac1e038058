import CompileServer.FileSystem.Listing
import CompileServer.Shell.TextUtility

/-!
# Utilities for files

Programs that make, copy, move, list and remove files, and programs that take paths apart.
-/

namespace CompileServer.Shell

/-- Does something for each of some names; the status tells whether all of it succeeded. -/
def forNames (names : List String) (body : String → Running Bool) : Running Nat := do
  let mut status := 0
  for name in names do
    if !(← body name) then status := 1
  return status

/-- Changes the files, or reports what failed and why. -/
def changeFiles (what : String) (change : FileSystem → Except FileFault FileSystem) :
    Running Bool := do
  let process ← get
  match change process.files with
  | .ok files =>
    set { process with files := files }
    return true
  | .error fault =>
    complain (what ++ ": " ++ fault.words)
    return false

/-- Makes folders. -/
def makeFolders : Utility :=
  withFlags "mkdir" ⟨"pv", "m", false⟩ fun flagged => do
    if flagged.others.isEmpty then refuseUse "mkdir" "missing operand"
    else forNames flagged.others fun name =>
      changeFiles ("mkdir: cannot create directory '" ++ name ++ "'") fun files =>
        if flagged.has 'p' then files.makeFolders ⟨name⟩ else files.makeFolder ⟨name⟩

/-- Removes empty folders. -/
def removeFolders : Utility :=
  withFlags "rmdir" ⟨"", "", false⟩ fun flagged => do
    if flagged.others.isEmpty then refuseUse "rmdir" "missing operand"
    else forNames flagged.others fun name =>
      changeFiles ("rmdir: failed to remove '" ++ name ++ "'") fun files =>
        match files.find false ⟨name⟩ with
        | .ok (.folder place) =>
          if (files.namesIn place).isEmpty then .ok (files.removeTree place)
          else .error (.system 39)
        | .ok (.missing _ _) => .error .notFound
        | .ok _ => .error .notFolder
        | .error fault => .error fault

/-- Removes files, and folders with all that is in them if asked to. -/
def removeFiles : Utility :=
  withFlags "rm" ⟨"rRfv", "", false⟩ fun flagged => do
    let isDeep := flagged.has 'r' || flagged.has 'R'
    if flagged.others.isEmpty && !flagged.has 'f' then refuseUse "rm" "missing operand"
    else forNames flagged.others fun name => do
      if flagged.has 'f' && !(← get).files.names ⟨name⟩ then return true
      else changeFiles ("rm: cannot remove '" ++ name ++ "'") fun files =>
        match files.find false ⟨name⟩ with
        | .ok (.file place _ false) => .ok (files.removeTree place)
        | .ok (.link place) => .ok (files.removeTree place)
        | .ok (.folder place) =>
          if isDeep then .ok (files.removeTree place) else .error .isFolder
        | .ok (.file _ _ true) => .error .notFolder
        | .ok (.missing _ _) => .error .notFound
        | .error fault => .error fault

/-- The last name of a path without the slashes at its end. -/
def baseName (path : String) : String :=
  let chars := path.toList.reverse.dropWhile (· = '/')
  if chars.isEmpty then if path.isEmpty then "" else "/"
  else String.ofList (chars.takeWhile (· ≠ '/')).reverse

/-- A path without its last name. -/
def parentName (path : String) : String :=
  let chars := path.toList.reverse.dropWhile (· = '/')
  let above := (chars.dropWhile (· ≠ '/')).dropWhile (· = '/')
  if above.isEmpty then if path.startsWith "/" then "/" else "."
  else String.ofList above.reverse

/-- Writes the last names of paths, perhaps without an ending. -/
def writeBaseName : Utility := fun arguments => do
  let strip := fun (ending name : String) =>
    if name ≠ ending && name.endsWith ending then (name.dropEnd ending.length).toString else name
  match arguments with
  | [] => refuseUse "basename" "missing operand"
  | [path] =>
    writeText (baseName path ++ "\n")
    return 0
  | [path, ending] =>
    writeText (strip ending (baseName path) ++ "\n")
    return 0
  | _ => refuseUse "basename" ("extra operand '" ++ arguments.getD 2 "" ++ "'")

/-- Writes paths without their last names. -/
def writeParentName : Utility := fun arguments => do
  if arguments.isEmpty then refuseUse "dirname" "missing operand"
  else forNames arguments fun path => do
    writeText (parentName path ++ "\n")
    return true

/-- Makes files that are not there. -/
def touchFiles : Utility :=
  withFlags "touch" ⟨"acm", "dtr", false⟩ fun flagged => do
    if flagged.others.isEmpty then refuseUse "touch" "missing file operand"
    else forNames flagged.others fun name => do
      if (← get).files.has ⟨name⟩ || flagged.has 'c' then return true
      else changeFiles ("touch: cannot touch '" ++ name ++ "'") fun files =>
        (files.openFile ⟨name⟩).map Prod.snd

/-- Where something goes that is copied or moved to a target: into it, if it is a folder. -/
def goalOf (files : FileSystem) (source target : String) : String :=
  if files.hasFolder ⟨target⟩ then target ++ "/" ++ baseName source else target

/-- Copies what stands at a place, with all that is in it, to another place. -/
def copyTree (files : FileSystem) (source target : Place) : FileSystem :=
  (files.entries.filter fun entry => source.isPrefixOf entry.1).foldl
    (fun copied entry => copied.put (target ++ entry.1.drop source.length) entry.2) files

/-- The place that a path names in a folder that is there. -/
def placeOf (files : FileSystem) (path : String) : Except FileFault Place :=
  match files.find true ⟨path⟩ with
  | .ok (.file place _ _) => .ok place
  | .ok (.folder place) => .ok place
  | .ok (.missing place _) => .ok place
  | .ok (.link place) => .ok place
  | .error fault => .error fault

/-- Copies or moves one file or folder. -/
def transfer (program : String) (isMove isDeep : Bool) (source target : String) :
    Running Bool := do
  let process ← get
  let fail := fun (text : String) => do
    complain (program ++ ": " ++ text)
    return false
  let goal := goalOf process.files source target
  let what := if isMove then "cannot move '" ++ source ++ "' to '" ++ goal ++ "'"
    else "cannot create regular file '" ++ goal ++ "'"
  let carry := fun (place : Place) => do
    match placeOf process.files goal with
    | .error fault => fail (what ++ ": " ++ fault.words)
    | .ok found =>
      if found = place then
        fail ("'" ++ source ++ "' and '" ++ goal ++ "' are the same file")
      else
        let copied := copyTree process.files place found
        set { process with files := if isMove then copied.removeTree place else copied }
        return true
  match process.files.find true ⟨source⟩ with
  | .ok (.file place _ false) => carry place
  | .ok (.folder place) =>
    if isMove || isDeep then carry place
    else fail ("-r not specified; omitting directory '" ++ source ++ "'")
  | .ok (.file _ _ true) => fail ("cannot stat '" ++ source ++ "': " ++ FileFault.notFolder.words)
  | .ok _ => fail ("cannot stat '" ++ source ++ "': " ++ FileFault.notFound.words)
  | .error fault => fail ("cannot stat '" ++ source ++ "': " ++ fault.words)

/-- Copies or moves files to the last argument. -/
def transferFiles (program : String) (isMove : Bool) : Utility :=
  withFlags program ⟨"rRfpavn", "", false⟩ fun flagged => do
    let isDeep := flagged.has 'r' || flagged.has 'R' || flagged.has 'a'
    match flagged.others.reverse with
    | [] => refuseUse program "missing file operand"
    | [source] => refuseUse program ("missing destination file operand after '" ++ source ++ "'")
    | target :: sources =>
      let files := (← get).files
      if 1 < sources.length && !files.hasFolder ⟨target⟩ then
        let fault := if files.has ⟨target⟩ then FileFault.notFolder else .notFound
        complain (program ++ ": target '" ++ target ++ "': " ++ fault.words)
        return 1
      else forNames sources.reverse fun source => transfer program isMove isDeep source target

/-- Lists files and what is in folders. -/
def listFiles : Utility := fun arguments => do
  match Flagged.ofArguments ⟨"1aAdF", "", false⟩ arguments with
  | .error fault =>
    complain (fault.message "ls")
    return 2
  | .ok flagged =>
    let files := (← get).files
    let showNames := fun (names : List String) =>
      writeText ("".intercalate (names.map (· ++ "\n")))
    let content := fun (name : String) =>
      let names := match files.list ⟨name⟩ with
        | .ok names => names
        | .error _ => []
      if flagged.has 'a' then "." :: ".." :: names
      else if flagged.has 'A' then names
      else names.filter fun name => !name.startsWith "."
    let wanted := (if flagged.others.isEmpty then ["."] else flagged.others).mergeSort
      fun a b => decide (a ≤ b)
    let there := wanted.filter fun name => files.names ⟨name⟩
    let isListed := fun (name : String) => files.hasFolder ⟨name⟩ && !flagged.has 'd'
    let mut status := 0
    for name in wanted do
      if !there.contains name then
        let fault := match files.find false ⟨name⟩ with
          | .error fault => fault
          | .ok (.file _ _ true) => .notFolder
          | .ok _ => .notFound
        complain ("ls: cannot access '" ++ name ++ "': " ++ fault.words)
        status := 2
    let folders := there.filter isListed
    let single := there.filter fun name => !isListed name
    showNames single
    let mut gap := if single.isEmpty then "" else "\n"
    for name in folders do
      if 1 < wanted.length then writeText (gap ++ name ++ ":\n")
      showNames (content name)
      gap := "\n"
    return status

/-- Writes the input to files as well as to the output. -/
def tee : Utility :=
  withFlags "tee" ⟨"ai", "", false⟩ fun flagged => do
    let bytes ← readAll
    write bytes
    forNames flagged.others fun name =>
      changeFiles ("tee: " ++ name) fun files => do
        let emptied ← if flagged.has 'a' then .ok files else files.write ⟨name⟩ .empty
        let (place, opened) ← emptied.openFile ⟨name⟩
        return opened.extend place bytes

/-- Writes the paths of files without links and steps. -/
def writeRealPath : Utility :=
  withFlags "realpath" ⟨"em", "", false⟩ fun flagged => do
    if flagged.others.isEmpty then refuseUse "realpath" "missing operand"
    else forNames flagged.others fun name => do
      let files := (← get).files
      match files.canonical ⟨name⟩, placeOf files name with
      | .ok path, _ =>
        writeText (path.text ++ "\n")
        return true
      | .error _, .ok place =>
        writeText ((FileSystem.pathOf place).text ++ "\n")
        return true
      | .error fault, .error _ =>
        complain ("realpath: " ++ name ++ ": " ++ fault.words)
        return false

/-- Writes the values of variables that the program knows, or all of them with their names. -/
def writeEnvironment : Utility := fun names => do
  let known := (← get).environment
  if names.isEmpty then
    writeText ("".intercalate (known.map fun (name, value) => name ++ "=" ++ value ++ "\n"))
    return 0
  else forNames names fun name => do
    match known.lookup name with
    | some value =>
      writeText (value ++ "\n")
      return true
    | none => return false

/-- Whether a text is a time to wait. -/
def isInterval (text : String) : Bool :=
  let chars := text.toList
  let number := match chars.getLast? with
    | some c => if ['s', 'm', 'h', 'd'].contains c then chars.dropLast else chars
    | none => []
  !number.isEmpty && number.all (fun c => c.isDigit || c = '.') && number.count '.' ≤ 1

/-- Waits, which takes no time here. -/
def sleep : Utility := fun arguments => do
  match arguments.find? fun text => !isInterval text with
  | some text => refuseUse "sleep" ("invalid time interval '" ++ text ++ "'")
  | none => if arguments.isEmpty then refuseUse "sleep" "missing operand" else return 0

/-- The programs for files, by name. -/
def filePrograms : List (String × Utility) :=
  [("mkdir", makeFolders), ("rmdir", removeFolders), ("rm", removeFiles),
    ("cp", transferFiles "cp" false), ("mv", transferFiles "mv" true), ("touch", touchFiles),
    ("ls", listFiles), ("tee", tee), ("basename", writeBaseName), ("dirname", writeParentName),
    ("realpath", writeRealPath), ("printenv", writeEnvironment), ("sleep", sleep)]

end CompileServer.Shell
