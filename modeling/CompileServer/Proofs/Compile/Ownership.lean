import CompileServer.Proofs.Compile.Lineage
import CompileServer.Proofs.Project.Replacement

/-!
# Owned files

A source file is served by the project that owns it, and so is a script that has no project of
its own.  The request puts the project back in its place, with a new analysis perhaps but with
the same files, so every file keeps its owner.
-/

namespace CompileServer

variable {σ α : Type}

/-- Whether a request for a file has the project that owns it checked again. -/
def Project.isStale (kinds : SourceKinds) (owner : Project α) (file : Path) : Bool :=
  decide (kinds.classify file = .script) || owner.isCompiled file

namespace Project.TakesAfter

theorem refl (project : Project α) : project.TakesAfter project :=
  ⟨rfl, rfl, rfl⟩

theorem fresh (owner : Project α) (analysis : Analysis α) :
    (Project.fresh owner.projectFile owner.options owner.runtimeFolder analysis).TakesAfter
      owner :=
  ⟨rfl, rfl, rfl⟩

theorem markCompiled {project owner : Project α} (htakes : project.TakesAfter owner)
    (file : Path) : (project.markCompiled file).TakesAfter owner where
  projectFile := (project.markCompiled_projectFile file).trans htakes.projectFile
  options := (project.markCompiled_options file).trans htakes.options
  runtimeFolder := (project.markCompiled_runtimeFolder file).trans htakes.runtimeFolder

theorem sourceFiles {project owner : Project α} (htakes : project.TakesAfter owner) :
    project.sourceFiles = owner.sourceFiles :=
  congrArg ProjectOptions.sourceFiles htakes.options

end Project.TakesAfter

namespace Store

variable {store : Store α} {kinds : SourceKinds} {file : Path} {owner project : Project α}

/-- A request for a file is assigned to the project that owns the file. -/
structure Assigns (store : Store α) (kinds : SourceKinds) (file : Path)
    (owner : Project α) : Prop where
  owner : store.findOwner file = some owner
  kind : kinds.classify file = .source ∨
    kinds.classify file = .script ∧ store.get? file = none

theorem Assigns.stored (hassigned : store.Assigns kinds file owner) (hkeyed : store.Keyed) :
    store.get? owner.projectFile = some owner := by
  obtain ⟨-, key, hfound⟩ := findOwner_eq_some hassigned.owner
  exact hkeyed.get?_projectFile hfound

theorem Assigns.decide (hassigned : store.Assigns kinds file owner) :
    store.decide kinds file =
      if owner.isStale kinds file then .rebuild owner.projectFile (.watch owner)
      else .reuse owner.projectFile := by
  obtain ⟨howner, hsource | ⟨hscript, hfree⟩⟩ := hassigned
  · rw [decide_source hsource howner]
    simp only [Project.isStale, hsource, reduceCtorEq, decide_false, Bool.false_or]
  · simp only [Store.decide, hscript, hfree, howner, Project.isStale, decide_true,
      Bool.true_or, if_true]

/-- A project that is put in the place of its owner leaves the names of all owners. -/
theorem owners_replace (hkeyed : store.Keyed)
    (hstored : store.get? owner.projectFile = some owner) (htakes : project.TakesAfter owner)
    (file : Path) :
    ((store.replace project).findOwner file).map Project.projectFile =
      (store.findOwner file).map Project.projectFile := by
  have hknown : store.get? project.projectFile = some owner := by
    rw [htakes.projectFile]
    exact hstored
  rw [findOwner_replace hkeyed hknown htakes.sourceFiles]
  cases hother : store.findOwner file with
  | none => rfl
  | some other =>
      by_cases hsame : project.projectFile ≈ other.projectFile
      · obtain ⟨-, key, hfound⟩ := findOwner_eq_some hother
        have hequal := hkeyed.get?_projectFile hfound
        rw [← store.get?_congr hsame, hknown] at hequal
        cases hequal
        rw [Option.map_some, if_pos hsame, Option.map_some, Option.map_some, htakes.projectFile]
      · rw [Option.map_some, if_neg hsame]

/-- Other projects go on to serve their files. -/
theorem Assigns.replace {other : Project α} (hassigned : store.Assigns kinds file owner)
    (hkeyed : store.Keyed) (hstored : store.get? other.projectFile = some other)
    (htakes : project.TakesAfter other)
    (hdifferent : ¬ other.projectFile ≈ owner.projectFile) :
    (store.replace project).Assigns kinds file owner := by
  have hknown : store.get? project.projectFile = some other := by
    rw [htakes.projectFile]
    exact hstored
  constructor
  · rw [findOwner_replace hkeyed hknown htakes.sourceFiles, hassigned.owner, Option.map_some,
      htakes.projectFile, if_neg hdifferent]
  · apply hassigned.kind.imp_right
    intro hscript
    rw [get?_replace hknown, hscript.2]
    constructor
    · exact hscript.1
    · rw [if_neg]
      intro hfile
      rw [store.get?_congr hfile, hknown] at hscript
      cases hscript.2

end Store

namespace Work

variable {host : Host σ α} {kinds : SourceKinds} {task : CompileTask}
  {before middle : Session σ α} {owner made : Project α}

/-- The owner of a file that was not compiled serves a request for it as it is. -/
theorem resolve_of_assigns (host : Host σ α) (hkeyed : before.store.Keyed)
    (hassigned : before.store.Assigns kinds task.file owner)
    (hfresh : owner.isStale kinds task.file = false) :
    resolve host kinds task before =
      (.ok (owner.markCompiled task.file),
        { before with store := before.store.replace (owner.markCompiled task.file) }) := by
  have hdecision := hassigned.decide
  rw [hfresh, if_neg Bool.false_ne_true] at hdecision
  have hstored := hassigned.stored hkeyed
  have hkey : owner.projectFile ≈ (owner.markCompiled task.file).projectFile := by
    apply Path.equiv_iff.2
    rw [owner.markCompiled_projectFile]
  have hreplaced := Store.modify_eq_replace hstored (fun found => found.markCompiled task.file)
    hkey
  rw [resolve_of_reuse hdecision hstored, hreplaced]

/-- The owner of a file that was compiled is checked again and put back in its place. -/
theorem resolve_of_stale (hkeyed : before.store.Keyed)
    (hassigned : before.store.Assigns kinds task.file owner)
    (hstale : owner.isStale kinds task.file = true)
    (hcreate : createProject host task owner.projectFile (.watch owner) before =
      (.ok made, middle)) :
    made.TakesAfter owner ∧
      resolve host kinds task before =
        (.ok (made.markCompiled task.file),
          { middle with store := before.store.replace (made.markCompiled task.file) }) := by
  have hmade := createProject_eq_ok hcreate
  have hextends :=
    (respects_extends host task owner.projectFile (.watch owner)).createProject before
  rw [hcreate] at hextends
  have hdecision := hassigned.decide
  rw [hstale, if_pos rfl] at hdecision
  have hstored : middle.store.get? made.projectFile = some owner := by
    rw [hextends.store, hmade.projectFile]
    exact hassigned.stored hkeyed
  have hreplaced := Store.insert_modify_eq_replace hstored
    (fun found => found.markCompiled task.file) (made.markCompiled_projectFile _).symm
  constructor
  · exact ⟨hmade.projectFile, hmade.of_watch.1, hmade.of_watch.2⟩
  · rw [resolve_of_rebuild hdecision hcreate]
    rw [hmade.projectFile, hextends.store] at hreplaced
    rw [← hreplaced, hextends.store]

/-- A check that fails leaves the store alone. -/
theorem resolve_of_stale_fault {fault : Fault}
    (hassigned : before.store.Assigns kinds task.file owner)
    (hstale : owner.isStale kinds task.file = true)
    (hcreate : createProject host task owner.projectFile (.watch owner) before =
      (.error fault, middle)) :
    resolve host kinds task before = (.error fault, middle) := by
  have hdecision := hassigned.decide
  rw [hstale, if_pos rfl] at hdecision
  exact resolve_of_fault hdecision hcreate

/-- A request for an owned file puts the owner back in its place, or fails and leaves the store
alone. -/
theorem store_resolve_of_assigns (host : Host σ α) (hkeyed : before.store.Keyed)
    (hassigned : before.store.Assigns kinds task.file owner) :
    (resolve host kinds task before).2.store = before.store ∨
      ∃ project : Project α, project.TakesAfter owner ∧
        (resolve host kinds task before).2.store = before.store.replace project := by
  cases hstale : owner.isStale kinds task.file with
  | false =>
      rw [resolve_of_assigns host hkeyed hassigned hstale]
      exact Or.inr ⟨_, (Project.TakesAfter.refl owner).markCompiled _, rfl⟩
  | true =>
      rcases hcreate : createProject host task owner.projectFile (.watch owner) before with
        ⟨fault | made, middle⟩
      · have hextends :=
          (respects_extends host task owner.projectFile (.watch owner)).createProject before
        rw [hcreate] at hextends
        rw [resolve_of_stale_fault hassigned hstale hcreate]
        exact Or.inl hextends.store
      · obtain ⟨htakes, hresolve⟩ := resolve_of_stale hkeyed hassigned hstale hcreate
        rw [hresolve]
        exact Or.inr ⟨_, htakes.markCompiled _, rfl⟩

/-- A request for a source file, or for a script that only belongs to another project, changes
no name of an owner. -/
theorem owners_resolve (host : Host σ α) (hkeyed : before.store.Keyed)
    (hkind : kinds.classify task.file = .source ∨
      kinds.classify task.file = .script ∧ before.store.get? task.file = none ∧
        (before.store.findOwner task.file).isSome = true)
    (file : Path) :
    ((resolve host kinds task before).2.store.findOwner file).map Project.projectFile =
      (before.store.findOwner file).map Project.projectFile := by
  cases howner : before.store.findOwner task.file with
  | none =>
      have hdecision : before.store.decide kinds task.file =
          .refuse (.notInProject task.file before.store.projectFiles) := by
        rcases hkind with hsource | ⟨-, -, howned⟩
        · simp only [Store.decide, hsource, howner]
        · rw [howner] at howned
          cases howned
      rw [resolve_of_refuse hdecision]
  | some owner =>
      have hassigned : before.store.Assigns kinds task.file owner :=
        ⟨howner, hkind.imp_right fun hscript => ⟨hscript.1, hscript.2.1⟩⟩
      obtain hstore | ⟨project, htakes, hstore⟩ := store_resolve_of_assigns host hkeyed hassigned
      · rw [hstore]
      · rw [hstore]
        exact Store.owners_replace hkeyed (hassigned.stored hkeyed) htakes file

end Work

end CompileServer
