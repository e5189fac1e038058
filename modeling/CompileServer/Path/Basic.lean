/-!
# Paths

A path keeps the spelling it was given.  What it names is the list of its
components: repeated and trailing slashes and inner dots do not count, a parent
step does.  Two paths are the same key when their components are equal, and keys
are ordered component by component.
-/

namespace CompileServer

/-- A path, as it is spelled. -/
structure Path where
  text : String
deriving DecidableEq, Repr

/-- One step of a path. -/
inductive Component where
  | root
  | current
  | parent
  | normal (name : String)
deriving DecidableEq, Repr

namespace Component

/-- The place of the kind of component in the order of paths. -/
def rank : Component → Nat
  | .root => 0
  | .current => 1
  | .parent => 2
  | .normal _ => 3

/-- The name of a normal component. -/
def name : Component → String
  | .normal name => name
  | _ => ""

/-- The spelling of a component. -/
def text : Component → String
  | .root => "/"
  | .current => "."
  | .parent => ".."
  | .normal name => name

/-- Components compare by kind and then by name. -/
instance : Ord Component := ⟨compareLex (compareOn rank) (compareOn name)⟩

/-- The component that a piece between slashes stands for; `first` says that the piece
opens a relative path. -/
def ofPiece (first : Bool) (piece : List Char) : Option Component :=
  if piece = [] then none
  else if piece = ['.'] then (if first then some .current else none)
  else if piece = ['.', '.'] then some .parent
  else some (.normal (String.ofList piece))

end Component

namespace Path

instance : Inhabited Path := ⟨⟨""⟩⟩

/-- The pieces of a text between slashes, at least one. -/
def pieces : List Char → List (List Char)
  | [] => [[]]
  | c :: rest =>
    if c = '/' then [] :: pieces rest
    else match pieces rest with
      | [] => [[c]]
      | piece :: more => (c :: piece) :: more

/-- Whether the text starts with a slash. -/
def startsAtRoot (chars : List Char) : Bool :=
  chars.head? == some '/'

/-- Whether the path starts at the root. -/
def isAbsolute (path : Path) : Bool :=
  startsAtRoot path.text.toList

/-- The components of a text. -/
def componentsOf (chars : List Char) : List Component :=
  if startsAtRoot chars then .root :: (pieces chars).filterMap (Component.ofPiece false)
  else match pieces chars with
    | [] => []
    | piece :: more =>
      (Component.ofPiece true piece).toList ++ more.filterMap (Component.ofPiece false)

/-- The components of a path. -/
def components (path : Path) : List Component :=
  componentsOf path.text.toList

/-- Paths are the same key when their components are equal. -/
instance : Setoid Path where
  r a b := a.components = b.components
  iseqv := ⟨fun _ => rfl, Eq.symm, Eq.trans⟩

theorem equiv_iff {a b : Path} : a ≈ b ↔ a.components = b.components := Iff.rfl

instance (a b : Path) : Decidable (a ≈ b) :=
  inferInstanceAs (Decidable (a.components = b.components))

/-- The order of keys: component by component. -/
def order (a b : Path) : Ordering :=
  compare a.components b.components

/-- Whether a list has the path under any spelling. -/
def isIn (path : Path) (paths : List Path) : Bool :=
  paths.any fun other => decide (path ≈ other)

/-- The name that a path ends in. -/
def fileName (path : Path) : Option String :=
  match path.components.getLast? with
  | some (.normal name) => some name
  | _ => none

/-- The parts of a text before and after its last dot, if it has a dot. -/
def splitLastDot : List Char → Option (List Char × List Char)
  | [] => none
  | c :: rest =>
    match splitLastDot rest with
    | some (before, after) => some (c :: before, after)
    | none => if c = '.' then some ([], rest) else none

/-- The stem and the extension of a name; a dot in front starts no extension. -/
def splitName (name : List Char) : List Char × Option (List Char) :=
  match splitLastDot name with
  | some (c :: stem, extension) => (c :: stem, some extension)
  | _ => (name, none)

/-- The name without its extension. -/
def stem (path : Path) : Option String :=
  path.fileName.map fun name => String.ofList (splitName name.toList).1

/-- What follows the last dot of the name. -/
def extension (path : Path) : Option String :=
  path.fileName.bind fun name => (splitName name.toList).2.map String.ofList

/-- Follows `path` from `base`; an absolute path leaves nothing of the base. -/
def join (base path : Path) : Path :=
  if path.isAbsolute then path
  else if base.text = "" || base.text.toList.getLast? = some '/' then ⟨base.text ++ path.text⟩
  else ⟨base.text ++ "/" ++ path.text⟩

/-- A path with the given components. -/
def ofComponents (components : List Component) : Path :=
  components.foldl (fun path component => path.join ⟨component.text⟩) ⟨""⟩

/-- The number of slashes that a text starts with. -/
def leadingSlashes (chars : List Char) : Nat :=
  (chars.takeWhile (· = '/')).length

/-- The path made absolute without looking at any file: dots and repeated slashes go,
parent steps and a trailing slash stay, and exactly two leading slashes stay too.  The empty
path stays empty. -/
def absolute (base path : Path) : Path :=
  if path.text = "" then path
  else
    let chars := path.text.toList
    let start :=
      if !path.isAbsolute then base
      else if leadingSlashes chars = 2 then ⟨"//"⟩
      else ⟨"/"⟩
    let steps := path.components.filter fun c => c != .root && c != .current
    let joined := steps.foldl (fun reached c => reached.join ⟨c.text⟩) start
    if chars.getLast? = some '/' then joined.join ⟨""⟩ else joined

end Path

end CompileServer
