import CompileServer.Compile.Error
import CompileServer.Project.Store
import CompileServer.SourceKind

/-!
# Decisions

Which project serves a request, and whether its analysis can be used again, is
decided by the kind of the file and the store alone.  A manifest always makes its
project anew.  A script is a project of its own unless another project lists it.
A source file is served by the project that lists it, which is checked again if
the file was compiled before: asking for a file a second time says that it changed.
-/

namespace CompileServer

/-- What a project that is made anew takes over from the one before. -/
structure Seed where
  options : Option ProjectOptions
  runtimeFolder : Option Path

namespace Seed

variable {α : Type}

/-- Nothing is taken over. -/
def none : Seed :=
  ⟨.none, .none⟩

/-- Everything but the analysis is taken over. -/
def watch (project : Project α) : Seed :=
  ⟨some project.options, some project.runtimeFolder⟩

/-- Only the runtime folder is taken over. -/
def lineage (project : Project α) : Seed :=
  ⟨.none, some project.runtimeFolder⟩

end Seed

/-- What to do about a request. -/
inductive Decision where
  /-- Make the project anew. -/
  | rebuild (project : Path) (seed : Seed)
  /-- Use the project as it is. -/
  | reuse (project : Path)
  /-- Refuse the request. -/
  | refuse (error : CompileError)

/-- What to do about a request for a file. -/
def Store.decide {α : Type} (store : Store α) (kinds : SourceKinds) (file : Path) : Decision :=
  match kinds.classify file with
  | .project =>
    match store.get? file with
    | some known => .rebuild file (.lineage known)
    | none => .rebuild file .none
  | .script =>
    match store.get? file with
    | some known => .rebuild file (.lineage known)
    | none =>
      match store.findOwner file with
      | some owner => .rebuild owner.projectFile (.watch owner)
      | none => .rebuild file .none
  | .source =>
    match store.findOwner file with
    | some owner =>
      if owner.isCompiled file then .rebuild owner.projectFile (.watch owner)
      else .reuse owner.projectFile
    | none => .refuse (.notInProject file store.projectFiles)
  | .signature => .refuse (.signatureFile file)
  | .other => .refuse (.unsupportedFile file)

end CompileServer
