import Mathlib.Logic.ExistsUnique
import CompileServer.Proofs.Compile.Sample
import CompileServer.Proofs.Path.Spelling

/-!
# Where dumps are written

The name of a dump is made from the last component of a project path that nobody checks.
Whatever this path is, the dump stands right inside the folder that was asked for: its name is
that of an ordinary file.  Two projects share the name exactly if their own names agree before
the final extension.
-/

namespace CompileServer

/-! ## Stems -/

/-- What stands before the final extension of a name.  An extension follows the last dot, and a
dot in front of the name starts none. -/
inductive Path.IsStem : String → String → Prop where
  | cut {stem extension : String} (hstem : stem ≠ "") (hextension : '.' ∉ extension.toList) :
      IsStem (stem ++ "." ++ extension) stem
  | whole {name : String} (hname : '.' ∉ name.toList.tail) : IsStem name name

namespace Path

theorem splitLastDot_plain {chars : List Char} (hchars : '.' ∉ chars) :
    splitLastDot chars = none := by
  induction chars with
  | nil => rfl
  | cons first rest ih =>
      rw [List.mem_cons, not_or] at hchars
      simp only [splitLastDot, ih hchars.2, if_neg (Ne.symm hchars.1)]

theorem splitLastDot_dot (before : List Char) {after : List Char} (hafter : '.' ∉ after) :
    splitLastDot (before ++ '.' :: after) = some (before, after) := by
  induction before with
  | nil => simp only [List.nil_append, splitLastDot, splitLastDot_plain hafter, if_true]
  | cons first rest ih => simp only [List.cons_append, splitLastDot, ih]

theorem splitName_cut {stem extension : List Char} (hstem : stem ≠ [])
    (hextension : '.' ∉ extension) :
    splitName (stem ++ '.' :: extension) = (stem, some extension) := by
  cases stem with
  | nil => exact absurd rfl hstem
  | cons first rest => simp only [splitName, splitLastDot_dot (first :: rest) hextension]

theorem splitName_whole {name : List Char} (hname : '.' ∉ name.tail) :
    splitName name = (name, none) := by
  cases name with
  | nil => rfl
  | cons first rest =>
      rw [List.tail_cons] at hname
      simp only [splitName, splitLastDot, splitLastDot_plain hname]
      by_cases hfirst : first = '.'
      · rw [if_pos hfirst]
      · rw [if_neg hfirst]

/-- Every name can be cut at a last dot, or no dot follows its first character. -/
theorem exists_isStem (name : String) : ∃ stem, IsStem name stem := by
  by_cases hdot : '.' ∈ name.toList
  · obtain ⟨extension, before, hreverse, hextension⟩ :=
      List.eq_append_cons_of_mem (List.mem_reverse.2 hdot)
    have hname : name.toList = before.reverse ++ '.' :: extension.reverse := by
      simpa using congrArg List.reverse hreverse
    have hlast : '.' ∉ extension.reverse := mt List.mem_reverse.1 hextension
    cases hbefore : before.reverse with
    | nil =>
        refine ⟨name, .whole ?_⟩
        rw [hname, hbefore]
        exact hlast
    | cons first rest =>
        have hcut : name =
            String.ofList before.reverse ++ "." ++ String.ofList extension.reverse := by
          rw [← String.toList_inj, hname]
          simp only [String.toList_append, String.toList_ofList, List.append_assoc]
          rfl
        refine ⟨String.ofList before.reverse, hcut ▸ .cut ?_ ?_⟩
        · rw [Ne, ← String.toList_inj, String.toList_ofList, hbefore]
          exact List.cons_ne_nil _ _
        · rwa [String.toList_ofList]
  · exact ⟨name, .whole fun hmem => hdot (List.mem_of_mem_tail hmem)⟩

/-- The stem of a name is the first part of the name when it is split. -/
theorem IsStem.eq_split {name stem : String} (hstem : IsStem name stem) :
    stem = String.ofList (splitName name.toList).1 := by
  cases hstem with
  | @cut _ extension hstem hextension =>
      have hname : (stem ++ "." ++ extension).toList =
          stem.toList ++ '.' :: extension.toList := by
        rw [String.toList_append, String.toList_append, List.append_assoc]
        rfl
      rw [hname, splitName_cut (mt String.toList_eq_nil_iff.1 hstem) hextension,
        String.ofList_toList]
  | whole hname => rw [splitName_whole hname, String.ofList_toList]

/-- Every name has exactly one stem. -/
theorem isStem_iff {name stem : String} :
    IsStem name stem ↔ stem = String.ofList (splitName name.toList).1 := by
  refine ⟨IsStem.eq_split, ?_⟩
  rintro rfl
  obtain ⟨stem, hstem⟩ := exists_isStem name
  rw [← hstem.eq_split]
  exact hstem

theorem IsStem.subset {name stem : String} (hstem : IsStem name stem) :
    stem.toList ⊆ name.toList := by
  cases hstem with
  | cut =>
      rw [String.toList_append, String.toList_append, List.append_assoc]
      exact List.subset_append_left _ _
  | whole => exact List.Subset.refl _

theorem fileName_eq_some {path : Path} {name : String} :
    path.fileName = some name ↔ path.components.getLast? = some (.normal name) := by
  unfold fileName
  split
  · rename_i other hlast
    simp only [hlast, Option.some.injEq, Component.normal.injEq]
  · rename_i hlast
    exact iff_of_false nofun (hlast name)

/-- The name that a path ends in is that of a step. -/
theorem isStep_of_fileName {path : Path} {name : String} (hname : path.fileName = some name) :
    (Component.normal name).IsStep := by
  have hlast := List.mem_of_getLast? (fileName_eq_some.1 hname)
  exact isStep_of_mem_componentsOf hlast Component.noConfusion Component.noConfusion

end Path

/-! ## The files of dumps -/

namespace AnalysisFile

variable {project other : Path}

/-- What the names of dumps end in. -/
def ending : String := ".analysis.json"

/-- The name of a dump is what stands before the ending, and this is the stem of a name or a
word without a slash. -/
theorem exists_fileName (project : Path) :
    ∃ start : String, '/' ∉ start.toList ∧ fileName project = start ++ ending := by
  cases hname : project.fileName with
  | none =>
      refine ⟨"project", by decide, ?_⟩
      rw [fileName, Path.stem, hname]
      rfl
  | some name =>
      obtain ⟨stem, hstem⟩ := Path.exists_isStem name
      refine ⟨stem, fun hslash => ?_, ?_⟩
      · exact (Path.isStep_of_fileName hname).slash (hstem.subset hslash)
      · rw [fileName, Path.stem, hname, Option.map_some, ← hstem.eq_split]
        rfl

theorem fileName_of_isStem {name stem : String}
    (hname : project.components.getLast? = some (.normal name)) (hstem : Path.IsStem name stem) :
    fileName project = stem ++ ending := by
  rw [fileName, Path.stem, Path.fileName_eq_some.2 hname, Option.map_some, ← hstem.eq_split]
  rfl

theorem fileName_congr (hlast : project.components.getLast? = other.components.getLast?) :
    fileName project = fileName other := by
  simp only [fileName, Path.stem, Path.fileName, hlast]

/-- The name of a dump is that of a step, whatever the project is called. -/
theorem isStep_fileName (project : Path) : (Component.normal (fileName project)).IsStep := by
  obtain ⟨start, hstart, hname⟩ := exists_fileName project
  have hchars : (fileName project).toList = start.toList ++ ending.toList := by
    rw [hname, String.toList_append]
  have hlong : 14 ≤ (fileName project).toList.length := by
    rw [hchars, List.length_append]
    exact Nat.le_add_left 14 _
  apply Component.isStep_normal
  · rw [hchars, List.mem_append, not_or]
    exact ⟨hstart, by decide⟩
  all_goals
    intro hshort
    rw [hshort] at hlong
    exact absurd hlong (by decide)

theorem ending_fileName (project : Path) : ending.toList <:+ (fileName project).toList := by
  obtain ⟨start, -, hname⟩ := exists_fileName project
  rw [hname, String.toList_append]
  exact List.suffix_append _ _

theorem components_path (folder project : Path) :
    (path folder project).components = folder.components ++ [.normal (fileName project)] := by
  have hjoin := Path.components_join folder (isStep_fileName project)
  rwa [Component.text] at hjoin

/-- Dumps in one folder have one file exactly if they have one name. -/
theorem path_equiv_iff (folder project other : Path) :
    path folder project ≈ path folder other ↔ fileName project = fileName other := by
  rw [Path.equiv_iff, components_path, components_path, List.append_cancel_left_eq,
    List.singleton_inj, Component.normal.injEq]

/-- The file stands right inside the folder, under the name of a dump. -/
def StandsIn (file folder : Path) : Prop :=
  ∃ name ∈ file.fileName, ending.toList <:+ name.toList ∧
    file.components = folder.components ++ [.normal name]

instance (file folder : Path) : Decidable (StandsIn file folder) :=
  inferInstanceAs (Decidable (∃ name ∈ file.fileName, _))

theorem standsIn_path (folder project : Path) : StandsIn (path folder project) folder := by
  refine ⟨fileName project, ?_, ending_fileName project, components_path folder project⟩
  rw [Option.mem_def, Path.fileName_eq_some, components_path, List.getLast?_concat]

end AnalysisFile

/-! ## Requests for dumps -/

/-- The host that saves nothing but dumps, and those in one folder. -/
def Host.confined (host : Host σ α) (allowed : Option Path) : Host σ α :=
  { host with
    save := fun folder file text world =>
      if allowed = some folder ∧ AnalysisFile.StandsIn file folder then
        host.save folder file text world
      else (.error .accessDenied, world) }

namespace Work

variable {σ α : Type} (host : Host σ α) (task : CompileTask) (project : Path)

theorem dumpIfAsked_confined (options : ProjectOptions) (diagnostics : List Diagnostic)
    (analysis : Analysis α) :
    dumpIfAsked (host.confined task.dumpFolder) task project options diagnostics analysis =
      dumpIfAsked host task project options diagnostics analysis := by
  unfold dumpIfAsked
  cases hfolder : task.dumpFolder with
  | none => rfl
  | some folder =>
      have hsave : ∀ text,
          save (host.confined (some folder)) folder (AnalysisFile.path folder options.projectFile)
            text = save host folder (AnalysisFile.path folder options.projectFile) text := by
        intro text
        funext session
        have hallowed := AnalysisFile.standsIn_path folder options.projectFile
        simp only [save, Host.confined, hallowed, and_self, if_true]
      simp only [dump, hsave]
      rfl

theorem createProject_confined (seed : Seed) :
    createProject (host.confined task.dumpFolder) task project seed =
      createProject host task project seed := by
  rw [createProject_eq, createProject_eq]
  simp only [dumpIfAsked_confined]
  rfl

/-- A request that is resolved saves nothing but a dump in the folder that it names. -/
theorem resolve_confined (kinds : SourceKinds) :
    resolve (host.confined task.dumpFolder) kinds task = resolve host kinds task := by
  unfold resolve
  simp only [createProject_confined]

end Work

namespace AnalysisFile

/-- Whatever a project is called, its dump is one more name behind the folder that was asked for.
The name depends on the last component of the project alone, and for projects with names it
tells apart what differs before the final extension.  A request saves nothing else. -/
theorem dumps_standInside {σ α : Type} (host : Host σ α) (kinds : SourceKinds)
    (task : CompileTask) :
    (∀ folder project : Path,
      (path folder project).components = folder.components ++ [.normal (fileName project)] ∧
        ending.toList <:+ (fileName project).toList) ∧
      (∀ project other : Path, project.components.getLast? = other.components.getLast? →
        fileName project = fileName other) ∧
      (∀ name, ∃! stem, Path.IsStem name stem) ∧
      (∀ (folder project other : Path) (name otherName stem otherStem : String),
        project.components.getLast? = some (.normal name) →
        other.components.getLast? = some (.normal otherName) →
        Path.IsStem name stem → Path.IsStem otherName otherStem →
        (path folder project ≈ path folder other ↔ stem = otherStem)) ∧
      Work.resolve (host.confined task.dumpFolder) kinds task =
        Work.resolve host kinds task := by
  refine ⟨?_, fun _ _ => fileName_congr, ?_, ?_, Work.resolve_confined host task kinds⟩
  · intro folder project
    exact ⟨components_path folder project, ending_fileName project⟩
  · intro name
    exact ⟨_, Path.isStem_iff.2 rfl, fun _ hstem => Path.isStem_iff.1 hstem⟩
  · intro folder project other name otherName stem otherStem hname hother hstem hotherStem
    rw [path_equiv_iff, fileName_of_isStem hname hstem, fileName_of_isStem hother hotherStem]
    exact String.append_left_inj _

/-- Names of dots, with slashes and dots around them, do not lead out of the folder and are not
mixed up, and projects without a name share one file. -/
theorem dumps_oddNames :
    let folder : Path := ⟨"./out//."⟩
    let project : Path := ⟨"/p/..fsx/"⟩
    let other : Path := ⟨"/q/.../."⟩
    (path folder project).components =
        [.current, .normal "out", .normal "..analysis.json"] ∧
      ¬ path folder project ≈ path folder other ∧
      fileName ⟨"/p/.."⟩ = fileName ⟨"../../"⟩ ∧
      Work.resolve (Sample.host.confined (some folder)) .standard
          ⟨Sample.manifest, [], [(CompileTask.dumpOption, .str folder.text)], [], []⟩ =
        Work.resolve Sample.host .standard
          ⟨Sample.manifest, [], [(CompileTask.dumpOption, .str folder.text)], [], []⟩ := by
  intro folder project other
  obtain ⟨hinside, hlast, -, hstems, hsaves⟩ := dumps_standInside Sample.host .standard
    ⟨Sample.manifest, [], [(CompileTask.dumpOption, .str folder.text)], [], []⟩
  refine ⟨?_, ?_, hlast _ _ (by decide), hsaves⟩
  · rw [(hinside folder project).1]
    decide +kernel
  · rw [hstems folder project other "..fsx" "..." "." ".." (by decide +kernel) (by decide +kernel)
      (Path.isStem_iff.2 (by decide +kernel)) (Path.isStem_iff.2 (by decide +kernel))]
    decide

end AnalysisFile

end CompileServer
