import CompileServer.Path.Basic

/-!
# Kinds of sources

What a request may do with a file is decided by the extension of its name alone.
-/

namespace CompileServer

/-- The kind of file that a request names. -/
inductive SourceKind where
  /-- The manifest of a project. -/
  | project
  /-- A script, which is a project of its own. -/
  | script
  /-- A source file of some project. -/
  | source
  /-- A signature, for which no code is generated. -/
  | signature
  /-- Anything else. -/
  | other
deriving DecidableEq, Repr

/-- The word for a kind. -/
def SourceKind.text : SourceKind → String
  | .project => "project"
  | .script => "script"
  | .source => "source"
  | .signature => "signature"
  | .other => "other"

/-- The extensions of every kind. -/
structure SourceKinds where
  project : List String
  script : List String
  source : List String
  signature : List String
deriving DecidableEq, Repr

namespace SourceKinds

/-- The extensions that hold unless others are configured. -/
def standard : SourceKinds :=
  ⟨["fsproj"], ["fsx"], ["fs"], ["fsi"]⟩

instance : Inhabited SourceKinds := ⟨standard⟩

/-- Whether two extensions agree up to the case of the ASCII letters. -/
def sameExtension (a b : String) : Bool :=
  a.toList.map Char.toLower == b.toList.map Char.toLower

/-- Whether a list holds an extension. -/
def lists (extensions : List String) (extension : String) : Bool :=
  extensions.any (sameExtension extension)

/-- The kind of a path: of the lists that hold its extension the first one decides. -/
def classify (kinds : SourceKinds) (path : Path) : SourceKind :=
  match path.extension with
  | none => .other
  | some extension =>
    if lists kinds.project extension then .project
    else if lists kinds.script extension then .script
    else if lists kinds.source extension then .source
    else if lists kinds.signature extension then .signature
    else .other

end SourceKinds

end CompileServer
