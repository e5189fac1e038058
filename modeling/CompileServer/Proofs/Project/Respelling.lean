import CompileServer.Compile.AnalysisFile
import CompileServer.Compile.Decision
import CompileServer.Proofs.Project.Store
import Mathlib.Data.List.Forall2

/-!
# Projects under other spellings

A path may be spelled in many ways, and projects, stores and decisions keep the spelling that
they were given.  Two of them agree up to spelling if they have the same paths in the same
places.  Whatever is looked up in stores that agree agrees, and so does what is decided there.
-/

namespace CompileServer

variable {α : Type}

namespace Path

theorem isIn_respelled {left right : Path} (hsame : left ≈ right) {paths others : List Path}
    (hpaths : List.Forall₂ (fun path other : Path => path ≈ other) paths others) :
    left.isIn paths = right.isIn others := by
  induction hpaths with
  | nil => rfl
  | cons hhead _ ih =>
      have hdecide : decide (left.components = _) = decide (right.components = _) :=
        congrArg₂ (fun a b => decide (a = b)) (equiv_iff.1 hsame) (equiv_iff.1 hhead)
      simp only [isIn, List.any_cons, equiv_iff] at ih ⊢
      rw [ih, hdecide]

theorem order_respelled {left right path other : Path} (hsame : left ≈ right)
    (hother : path ≈ other) : order left path = order right other :=
  (order_congr_left hsame path).trans (order_congr_right hother right)

theorem stem_congr {left right : Path} (hsame : left ≈ right) : left.stem = right.stem := by
  simp only [stem, fileName, equiv_iff.1 hsame]

end Path

/-- The dump of a project has the same name under every spelling of the project. -/
theorem AnalysisFile.path_congr (folder : Path) {left right : Path} (hsame : left ≈ right) :
    path folder left = path folder right := by
  simp only [path, fileName, Path.stem_congr hsame]

/-- The options agree up to the spelling of paths. -/
structure ProjectOptions.Respelled (left right : ProjectOptions) : Prop where
  projectFile : left.projectFile ≈ right.projectFile
  sourceFiles : List.Forall₂ (fun path other : Path => path ≈ other)
    left.sourceFiles right.sourceFiles
  defines : left.defines = right.defines
  raw : left.raw = right.raw

namespace Project

/-- The projects agree up to the spelling of paths. -/
structure Respelled (left right : Project α) : Prop where
  projectFile : left.projectFile ≈ right.projectFile
  options : left.options.Respelled right.options
  runtimeFolder : left.runtimeFolder = right.runtimeFolder
  analysis : left.analysis = right.analysis
  compiled : ∀ file, left.isCompiled file = right.isCompiled file

variable {left right : Project α}

theorem Respelled.contains (hproject : left.Respelled right) {file other : Path}
    (hfile : file ≈ other) : left.contains file = right.contains other := by
  rw [contains_eq, contains_eq]
  exact Path.isIn_respelled hfile hproject.options.sourceFiles

theorem Respelled.isCompiled (hproject : left.Respelled right) {file other : Path}
    (hfile : file ≈ other) : left.isCompiled file = right.isCompiled other :=
  (Path.isIn_congr hfile left.compiled).trans (hproject.compiled other)

theorem Respelled.fresh {file other : Path} (hfile : file ≈ other)
    {options otherOptions : ProjectOptions} (hoptions : options.Respelled otherOptions)
    (folder : Path) (analysis : Analysis α) :
    (Project.fresh file options folder analysis).Respelled
      (.fresh other otherOptions folder analysis) :=
  ⟨hfile, hoptions, rfl, rfl, fun _ => rfl⟩

theorem Respelled.markCompiled (hproject : left.Respelled right) {file other : Path}
    (hfile : file ≈ other) :
    (left.markCompiled file).Respelled (right.markCompiled other) where
  projectFile := by simpa only [markCompiled_projectFile] using hproject.projectFile
  options := by simpa only [markCompiled_options] using hproject.options
  runtimeFolder := by simpa only [markCompiled_runtimeFolder] using hproject.runtimeFolder
  analysis := by simpa only [markCompiled_analysis] using hproject.analysis
  compiled path := by
    rw [Bool.eq_iff_iff, isCompiled_markCompiled, isCompiled_markCompiled,
      hproject.compiled path, Path.equiv_iff, Path.equiv_iff, Path.equiv_iff.1 hfile]

end Project

namespace Store

/-- The entries agree up to the spelling of paths. -/
def EntriesRespelled : List (Path × Project α) → List (Path × Project α) → Prop :=
  List.Forall₂ fun entry other => entry.1 ≈ other.1 ∧ entry.2.Respelled other.2

/-- The stores agree up to the spelling of paths. -/
def Respelled (left right : Store α) : Prop :=
  EntriesRespelled left.entries right.entries

variable {left right : Store α} {entries others : List (Path × Project α)}

theorem Respelled.empty : (Store.empty : Store α).Respelled .empty :=
  .nil

theorem lookup_respelled {key other : Path} (hkey : key ≈ other)
    (hentries : EntriesRespelled entries others) :
    Option.Rel Project.Respelled (lookup key entries) (lookup other others) := by
  induction hentries with
  | nil => exact .none
  | @cons entry otherEntry _ _ hhead _ ih =>
      have hiff : key ≈ entry.1 ↔ other ≈ otherEntry.1 := by
        rw [Path.equiv_iff, Path.equiv_iff, Path.equiv_iff.1 hkey, Path.equiv_iff.1 hhead.1]
      unfold lookup
      by_cases hfound : key ≈ entry.1
      · rw [if_pos hfound, if_pos (hiff.1 hfound)]
        exact .some hhead.2
      · rw [if_neg hfound, if_neg fun h => hfound (hiff.2 h)]
        exact ih

theorem Respelled.get? (hstore : left.Respelled right) {key other : Path} (hkey : key ≈ other) :
    Option.Rel Project.Respelled (left.get? key) (right.get? other) :=
  lookup_respelled hkey hstore

theorem find?_respelled {file other : Path} (hfile : file ≈ other)
    (hentries : EntriesRespelled entries others) :
    Option.Rel Project.Respelled
      ((entries.map Prod.snd).find? fun project => project.contains file)
      ((others.map Prod.snd).find? fun project => project.contains other) := by
  induction hentries with
  | nil => exact .none
  | @cons entry otherEntry _ _ hhead _ ih =>
      have hcontains := hhead.2.contains hfile
      rw [List.map_cons, List.map_cons, List.find?_cons, List.find?_cons, hcontains]
      cases otherEntry.2.contains other with
      | true => exact .some hhead.2
      | false => exact ih

theorem Respelled.findOwner (hstore : left.Respelled right) {file other : Path}
    (hfile : file ≈ other) :
    Option.Rel Project.Respelled (left.findOwner file) (right.findOwner other) :=
  find?_respelled hfile hstore

theorem Respelled.projectFiles (hstore : left.Respelled right) :
    List.Forall₂ (fun path other : Path => path ≈ other) left.projectFiles
      right.projectFiles := by
  unfold Store.projectFiles
  rw [List.forall₂_map_left_iff, List.forall₂_map_right_iff]
  exact hstore.imp fun _ _ hentry => hentry.1

theorem insertEntry_respelled {project other : Project α} (hproject : project.Respelled other)
    (hentries : EntriesRespelled entries others) :
    EntriesRespelled (insertEntry project entries) (insertEntry other others) := by
  induction hentries with
  | nil => exact .cons ⟨hproject.projectFile, hproject⟩ .nil
  | cons hhead hrest ih =>
      unfold insertEntry
      rw [Path.order_respelled hproject.projectFile hhead.1]
      split
      · exact .cons ⟨hproject.projectFile, hproject⟩ (.cons hhead hrest)
      · exact .cons ⟨hhead.1, hproject⟩ hrest
      · exact .cons hhead ih

theorem Respelled.insert (hstore : left.Respelled right) {project other : Project α}
    (hproject : project.Respelled other) :
    (left.insert project).Respelled (right.insert other) :=
  insertEntry_respelled hproject hstore

theorem Respelled.modify (hstore : left.Respelled right) {key other : Path} (hkey : key ≈ other)
    {change otherChange : Project α → Project α}
    (hchange : ∀ {project project' : Project α}, project.Respelled project' →
      (change project).Respelled (otherChange project')) :
    (left.modify key change).Respelled (right.modify other otherChange) := by
  unfold Respelled EntriesRespelled Store.modify
  rw [List.forall₂_map_left_iff, List.forall₂_map_right_iff]
  refine List.Forall₂.imp ?_ hstore
  intro entry otherEntry hentry
  have hiff : key ≈ entry.1 ↔ other ≈ otherEntry.1 := by
    rw [Path.equiv_iff, Path.equiv_iff, Path.equiv_iff.1 hkey, Path.equiv_iff.1 hentry.1]
  refine ⟨hentry.1, ?_⟩
  by_cases hfound : key ≈ entry.1
  · rw [if_pos hfound, if_pos (hiff.1 hfound)]
    exact hchange hentry.2
  · rw [if_neg hfound, if_neg fun h => hfound (hiff.2 h)]
    exact hentry.2

end Store

/-! ## Decisions -/

/-- The seeds agree up to the spelling of paths. -/
structure Seed.Respelled (left right : Seed) : Prop where
  options : Option.Rel ProjectOptions.Respelled left.options right.options
  runtimeFolder : left.runtimeFolder = right.runtimeFolder

/-- The errors are of one kind and agree up to the spelling of paths. -/
inductive CompileError.Respelled : CompileError → CompileError → Prop where
  | runtimeFolderNotFound {project other : Path} (hproject : project ≈ other) :
      Respelled (.runtimeFolderNotFound project) (.runtimeFolderNotFound other)
  | notInProject {file other : Path} {projects others : List Path} (hfile : file ≈ other)
      (hprojects : List.Forall₂ (fun path other : Path => path ≈ other) projects others) :
      Respelled (.notInProject file projects) (.notInProject other others)
  | signatureFile {file other : Path} (hfile : file ≈ other) :
      Respelled (.signatureFile file) (.signatureFile other)
  | unsupportedFile {file other : Path} (hfile : file ≈ other) :
      Respelled (.unsupportedFile file) (.unsupportedFile other)
  | buildOptions {project other : Path} (hproject : project ≈ other) (causes : Causes) :
      Respelled (.buildOptions project causes) (.buildOptions other causes)
  | frontEnd {project other : Path} (hproject : project ≈ other) (causes : Causes) :
      Respelled (.frontEnd project causes) (.frontEnd other causes)
  | vanished {project other : Path} (hproject : project ≈ other) :
      Respelled (.internal ("project " ++ project.text ++ " vanished from the store"))
        (.internal ("project " ++ other.text ++ " vanished from the store"))

/-- The decisions are of one kind and agree up to the spelling of paths. -/
inductive Decision.Respelled : Decision → Decision → Prop where
  | rebuild {project other : Path} {seed otherSeed : Seed} (hproject : project ≈ other)
      (hseed : seed.Respelled otherSeed) :
      Respelled (.rebuild project seed) (.rebuild other otherSeed)
  | reuse {project other : Path} (hproject : project ≈ other) :
      Respelled (.reuse project) (.reuse other)
  | refuse {error other : CompileError} (herror : error.Respelled other) :
      Respelled (.refuse error) (.refuse other)

theorem Seed.Respelled.none : Seed.none.Respelled .none :=
  ⟨.none, rfl⟩

theorem Seed.Respelled.watch {left right : Project α} (hproject : left.Respelled right) :
    (Seed.watch left).Respelled (.watch right) :=
  ⟨.some hproject.options, congrArg some hproject.runtimeFolder⟩

theorem Seed.Respelled.lineage {left right : Project α} (hproject : left.Respelled right) :
    (Seed.lineage left).Respelled (.lineage right) :=
  ⟨.none, congrArg some hproject.runtimeFolder⟩

/-- Stores that agree decide alike about a file under any spelling. -/
theorem Store.Respelled.decide {left right : Store α} (hstore : left.Respelled right)
    (kinds : SourceKinds) {file other : Path} (hfile : file ≈ other) :
    (left.decide kinds file).Respelled (right.decide kinds other) := by
  have hknown := hstore.get? hfile
  have howner := hstore.findOwner hfile
  unfold Store.decide
  rw [kinds.classify_congr hfile]
  generalize left.get? file = known, right.get? other = otherKnown at hknown
  generalize left.findOwner file = owner, right.findOwner other = otherOwner at howner
  cases kinds.classify other with
  | project =>
      cases hknown with
      | none => exact .rebuild hfile .none
      | some hproject => exact .rebuild hfile (.lineage hproject)
  | script =>
      cases hknown with
      | some hproject => exact .rebuild hfile (.lineage hproject)
      | none =>
          cases howner with
          | none => exact .rebuild hfile .none
          | some hproject => exact .rebuild hproject.projectFile (.watch hproject)
  | source =>
      cases howner with
      | none => exact .refuse (.notInProject hfile hstore.projectFiles)
      | @some owner otherOwner hproject =>
          dsimp only
          rw [hproject.isCompiled hfile]
          split
          · exact .rebuild hproject.projectFile (.watch hproject)
          · exact .reuse hproject.projectFile
  | signature => exact .refuse (.signatureFile hfile)
  | other => exact .refuse (.unsupportedFile hfile)

end CompileServer
