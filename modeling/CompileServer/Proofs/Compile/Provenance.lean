import CompileServer.Proofs.Compile.Loading
import CompileServer.Proofs.Compile.Sequence
import Mathlib.Data.List.Induction

/-!
# Where projects come from

Every stored project goes back to the last request for its own file that was resolved.
The options are those derived for that request and the analysis is a check of these
options, however often the project was checked again, whatever became of other projects
and whatever failed in between.
-/

namespace CompileServer

variable {α δ : Type}

/-- What incremental work relies on: nothing but the components of a path count for the
runtime folder and for plugins, dumps do not break off, and code generation does not
depend on the number of the analysis or on the log. -/
structure Answers.Steady (answers : Answers α) : Prop where
  findRuntime : ∀ left right, left ≈ right →
    answers.findRuntime left = answers.findRuntime right
  loadPlugins : ∀ left right, left ≈ right →
    answers.loadPlugins left = answers.loadPlugins right
  describe : ∀ analysis, ∃ shown, answers.describe analysis = .ok shown
  transform : ∀ (left right : Analysis α) task first second, left.value = right.value →
    answers.transform left task first = answers.transform right task second
  generate : ∀ program task first second,
    answers.generate program task first = answers.generate program task second

/-- The project is what a task makes of its own file. -/
structure Founded (answers : Answers α) (kinds : SourceKinds) (task : CompileTask)
    (project : Project α) : Prop where
  kind : kinds.classify task.file = .project ∨ kinds.classify task.file = .script
  projectFile : project.projectFile = task.file
  options : ∃ derived, answers.deriveOptions task.defines task.file = .ok (.ok derived) ∧
    project.options = { derived with sourceFiles := derived.sourceFiles.map answers.normalize }
  runtimeFolder : answers.findRuntime task.file = .ok (.ok (some project.runtimeFolder))
  checked : ∃ diagnostics,
    answers.check project.options = .ok (.ok (diagnostics, project.analysis.value))

namespace Founded

variable {answers : Answers α} {kinds : SourceKinds} {task : CompileTask}
  {project : Project α}

theorem markCompiled (hfounded : Founded answers kinds task project) (file : Path) :
    Founded answers kinds task (project.markCompiled file) where
  kind := hfounded.kind
  projectFile := (project.markCompiled_projectFile file).trans hfounded.projectFile
  options := by
    rw [project.markCompiled_options]
    exact hfounded.options
  runtimeFolder := by
    rw [project.markCompiled_runtimeFolder]
    exact hfounded.runtimeFolder
  checked := by
    rw [project.markCompiled_options, project.markCompiled_analysis]
    exact hfounded.checked

/-- A source file is not the file of a project. -/
theorem not_equiv_source (hfounded : Founded answers kinds task project) {file : Path}
    (hsource : kinds.classify file = .source) : ¬ file ≈ task.file := by
  intro hsame
  have hkind := hfounded.kind
  rw [← kinds.classify_congr hsame, hsource] at hkind
  rcases hkind with hkind | hkind <;> cases hkind

/-- Two projects of one task have the same options and the same analysis. -/
theorem value_eq {other : Project α} (hfounded : Founded answers kinds task project)
    (hother : Founded answers kinds task other) :
    other.options = project.options ∧ other.analysis.value = project.analysis.value := by
  obtain ⟨derived, hderived, hoptions⟩ := hfounded.options
  obtain ⟨derivedToo, hderivedToo, hoptionsToo⟩ := hother.options
  cases hderived.symm.trans hderivedToo
  have hsame : other.options = project.options := hoptionsToo.trans hoptions.symm
  obtain ⟨_, hchecked⟩ := hfounded.checked
  obtain ⟨_, hcheckedToo⟩ := hother.checked
  rw [hsame] at hcheckedToo
  have hanswer := hchecked.symm.trans hcheckedToo
  simp only [Except.ok.injEq, Prod.mk.injEq] at hanswer
  exact ⟨hsame, hanswer.2.symm⟩

end Founded

section Making

variable {answers : Answers α} {saving : Saving δ} {kinds : SourceKinds}
  {task : CompileTask} {before after : Session δ α} {made : Project α}

/-- A project that is made for its own file is what the task makes of it, also when it
takes over the runtime folder of the one before. -/
theorem founded_of_own (hsteady : answers.Steady)
    (hkind : kinds.classify task.file = .project ∨ kinds.classify task.file = .script)
    {known : Option (Project α)}
    (hknown : ∀ project, known = some project →
      ∃ origin, Founded answers kinds origin project ∧ origin.file ≈ task.file)
    (hmade : Creation (answers.host saving) task task.file (.ofKnown known) before made after) :
    Founded answers kinds task made where
  kind := hkind
  projectFile := hmade.projectFile
  options := by
    rcases hmade.options with hkept | ⟨-, derived, world, hderived, hoptions⟩
    · cases hkept
    · exact ⟨derived, congrArg Prod.fst hderived, hoptions⟩
  runtimeFolder := by
    rcases hmade.runtimeFolder with hkept | ⟨-, world, later, hfound⟩
    · obtain ⟨project, hproject, hfolder⟩ := Option.map_eq_some_iff.1 hkept
      obtain ⟨origin, hfounded, hsame⟩ := hknown project hproject
      rw [← hsteady.findRuntime _ _ hsame, ← hfolder]
      exact hfounded.runtimeFolder
    · exact congrArg Prod.fst hfound
  checked := by
    obtain ⟨world, diagnostics, later, hchecked⟩ := hmade.checked
    exact ⟨diagnostics, congrArg Prod.fst hchecked⟩

/-- A project that is checked again is still what its own task made of it. -/
theorem founded_of_watch {origin : CompileTask} {owner : Project α}
    (hfounded : Founded answers kinds origin owner)
    (hmade : Creation (answers.host saving) task owner.projectFile (.watch owner) before made
      after) : Founded answers kinds origin made := by
  obtain ⟨hoptions, hfolder⟩ := hmade.of_watch
  obtain ⟨world, diagnostics, later, hchecked⟩ := hmade.checked
  exact {
    kind := hfounded.kind
    projectFile := hmade.projectFile.trans hfounded.projectFile
    options := hoptions ▸ hfounded.options
    runtimeFolder := hfolder ▸ hfounded.runtimeFolder
    checked := ⟨diagnostics, congrArg Prod.fst hchecked⟩ }

/-- A project that serves a request is made for its own file, or it has an owner that it
takes after: what a task made of the owner, it made of the project. -/
theorem Resolved.own_or_owned {project : Project α}
    (hresolved : Resolved (answers.host saving) kinds task before (.ok project) after) :
    (∃ made later, project = made.markCompiled task.file ∧
      (kinds.classify task.file = .project ∨ kinds.classify task.file = .script) ∧
      Creation (answers.host saving) task task.file (.ofKnown (before.store.get? task.file))
        before made later) ∨
    (∃ owner, before.store.findOwner task.file = some owner ∧
      (kinds.classify task.file = .script ∧ before.store.get? task.file = none ∨
        kinds.classify task.file = .source) ∧
      ∀ origin, Founded answers kinds origin owner →
        Founded answers kinds origin project) := by
  cases hresolved with
  | rebuilt hdecided hmade =>
      cases hdecided with
      | own hkind => exact Or.inl ⟨_, after, rfl, hkind, hmade⟩
      | watch howner hkind =>
          refine Or.inr ⟨_, howner, hkind.imp_right And.left, fun origin hfounded => ?_⟩
          exact (founded_of_watch hfounded hmade).markCompiled _
  | reused howner hstored hsource =>
      exact Or.inr ⟨_, howner, Or.inr hsource, fun _ hfounded => hfounded.markCompiled _⟩

end Making

/-- The request at a position is the last for its own file that was resolved, and the
project is what it made of the file. -/
def Originates (answers : Answers α) (saving : Saving δ) (kinds : SourceKinds) (disk : δ)
    (payloads : List Json) (position : Nat) (project : Project α) : Prop :=
  ∃ creator, Session.jobAt? (answers.host saving) kinds disk payloads position = some creator ∧
    Founded answers kinds creator.task project ∧
    ∀ later other, position < later →
      Session.jobAt? (answers.host saving) kinds disk payloads later = some other →
      ¬ other.task.file ≈ project.projectFile

/-- Every stored project goes back to a request, and the cache is faithful. -/
structure Grounded (answers : Answers α) (saving : Saving δ) (kinds : SourceKinds) (disk : δ)
    (payloads : List Json) : Prop where
  keyed : (Session.afterAll (answers.host saving) kinds disk payloads).store.Keyed
  faithful : answers.Faithful
    (Session.afterAll (answers.host saving) kinds disk payloads).plugins
  stored : ∀ key project,
    (Session.afterAll (answers.host saving) kinds disk payloads).store.get? key =
      some project →
    ∃ position, Originates answers saving kinds disk payloads position project

section Run

variable {answers : Answers α} {saving : Saving δ} {kinds : SourceKinds} {disk : δ}
  {payloads : List Json} {payload : Json}

theorem grounded_nil : Grounded answers saving kinds disk [] where
  keyed := .empty
  faithful := answers.faithful_empty
  stored _ _ hstored := by cases hstored

/-- A request for another file, or one that fails, leaves the origin of a project. -/
theorem Originates.later {position : Nat} {project : Project α}
    (horigin : Originates answers saving kinds disk payloads position project)
    (hother : ∀ job : Job α,
      ((Session.afterAll (answers.host saving) kinds disk payloads).prepare
        (answers.host saving) kinds payload).1 = .ok job →
      ¬ job.task.file ≈ project.projectFile) :
    Originates answers saving kinds disk (payloads ++ [payload]) position project := by
  obtain ⟨creator, hcreator, hfounded, hlast⟩ := horigin
  have hlt : position < payloads.length := by
    refine Nat.lt_of_not_le fun hle => ?_
    rw [Session.jobAt?_of_length_le _ _ _ _ hle] at hcreator
    cases hcreator
  refine ⟨creator, ?_, hfounded, fun later other hlater hjob => ?_⟩
  · rw [Session.jobAt?_append _ _ _ _ hlt]
    exact hcreator
  · rcases Nat.lt_trichotomy later payloads.length with hbefore | rfl | hafter
    · rw [Session.jobAt?_append _ _ _ _ hbefore] at hjob
      exact hlast later other hlater hjob
    · rw [Session.jobAt?_concat] at hjob
      exact hother other hjob
    · rw [Session.jobAt?_of_length_le] at hjob
      · cases hjob
      · rw [List.length_append]
        exact hafter

/-- A project that keeps to its task goes back to the same request. -/
theorem Originates.change {position : Nat} {owner changed : Project α}
    (horigin : Originates answers saving kinds disk payloads position owner)
    (hfounded : ∀ origin, Founded answers kinds origin owner →
      Founded answers kinds origin changed) :
    Originates answers saving kinds disk payloads position changed := by
  obtain ⟨creator, hcreator, hcreated, hlast⟩ := horigin
  have hchanged := hfounded creator.task hcreated
  refine ⟨creator, hcreator, hchanged, ?_⟩
  rw [hchanged.projectFile, ← hcreated.projectFile]
  exact hlast

/-- A file that is not the file of any stored project. -/
def Foreign (store : Store α) (file : Path) : Prop :=
  ∀ key project, store.get? key = some project → ¬ file ≈ project.projectFile

theorem Grounded.foreign (hgrounded : Grounded answers saving kinds disk payloads)
    {file : Path}
    (hkind : kinds.classify file = .script ∧
        (Session.afterAll (answers.host saving) kinds disk payloads).store.get? file = none ∨
      kinds.classify file = .source) :
    Foreign (Session.afterAll (answers.host saving) kinds disk payloads).store file := by
  intro key project hstored hsame
  rcases hkind with ⟨-, hnone⟩ | hsource
  · rw [Store.get?_congr _ hsame, hgrounded.keyed.get?_projectFile hstored] at hnone
    cases hnone
  · obtain ⟨position, creator, -, hfounded, -⟩ := hgrounded.stored key project hstored
    rw [hfounded.projectFile] at hsame
    exact hfounded.not_equiv_source hsource hsame

/-- A request for the own file of a project is where the project comes from. -/
theorem Grounded.stored_own (hgrounded : Grounded answers saving kinds disk payloads)
    {job : Job α} {after : Session δ α} {made : Project α}
    (hprepare : (Session.afterAll (answers.host saving) kinds disk payloads).prepare
      (answers.host saving) kinds payload = (.ok job, after))
    (hpublished : (Session.afterAll (answers.host saving) kinds disk payloads).store.Publishes
      after.store made)
    (hfounded : Founded answers kinds job.task made) {key : Path} {project : Project α}
    (hstored : after.store.get? key = some project) :
    ∃ position, Originates answers saving kinds disk (payloads ++ [payload]) position
      project := by
  rw [hpublished key] at hstored
  split at hstored
  · cases hstored
    refine ⟨payloads.length, job, ?_, hfounded, fun later other hlater hjob => ?_⟩
    · rw [Session.jobAt?_concat, hprepare]
    · rw [Session.jobAt?_of_length_le] at hjob
      · cases hjob
      · rw [List.length_append]
        exact hlater
  · rename_i hkey
    obtain ⟨position, horigin⟩ := hgrounded.stored key project hstored
    refine ⟨position, horigin.later fun other hother hsame => hkey ?_⟩
    rw [hprepare] at hother
    cases hother
    rw [hfounded.projectFile]
    exact Setoid.trans (hgrounded.keyed key project hstored) (Setoid.symm hsame)

/-- A request for any other file leaves every project where it comes from. -/
theorem Grounded.stored_foreign (hgrounded : Grounded answers saving kinds disk payloads)
    {job : Job α} {after : Session δ α} {owner changed : Project α}
    (hprepare : (Session.afterAll (answers.host saving) kinds disk payloads).prepare
      (answers.host saving) kinds payload = (.ok job, after))
    (hpublished : (Session.afterAll (answers.host saving) kinds disk payloads).store.Publishes
      after.store changed)
    (hforeign : Foreign (Session.afterAll (answers.host saving) kinds disk payloads).store
      job.task.file)
    (howner : ∃ key, (Session.afterAll (answers.host saving) kinds disk payloads).store.get?
      key = some owner)
    (hfounded : ∀ origin, Founded answers kinds origin owner →
      Founded answers kinds origin changed)
    {key : Path} {project : Project α} (hstored : after.store.get? key = some project) :
    ∃ position, Originates answers saving kinds disk (payloads ++ [payload]) position
      project := by
  have hlater : ∀ known key position,
      (Session.afterAll (answers.host saving) kinds disk payloads).store.get? key =
        some known →
      Originates answers saving kinds disk payloads position known →
      Originates answers saving kinds disk (payloads ++ [payload]) position known := by
    intro known key position hknown horigin
    refine horigin.later fun other hother => ?_
    rw [hprepare] at hother
    cases hother
    exact hforeign key known hknown
  rw [hpublished key] at hstored
  split at hstored
  · cases hstored
    obtain ⟨ownKey, howner⟩ := howner
    obtain ⟨position, horigin⟩ := hgrounded.stored ownKey owner howner
    exact ⟨position, (hlater owner ownKey position howner horigin).change hfounded⟩
  · obtain ⟨position, horigin⟩ := hgrounded.stored key project hstored
    exact ⟨position, hlater project key position hstored horigin⟩

/-- What one request preserves. -/
theorem Grounded.step (hsteady : answers.Steady)
    (hgrounded : Grounded answers saving kinds disk payloads) (payload : Json) :
    Grounded answers saving kinds disk (payloads ++ [payload]) := by
  have hafter : Session.afterAll (answers.host saving) kinds disk (payloads ++ [payload]) =
      ((Session.afterAll (answers.host saving) kinds disk payloads).prepare
        (answers.host saving) kinds payload).2 := by
    rw [Session.afterAll_concat, Session.answer_session]
  rcases hprepare : (Session.afterAll (answers.host saving) kinds disk payloads).prepare
    (answers.host saving) kinds payload with ⟨reply | job, after⟩
  all_goals rw [hprepare] at hafter
  · obtain ⟨hstore, hfaithful⟩ := Answers.prepare_eq_error saving kinds hsteady.loadPlugins
      hgrounded.faithful hgrounded.keyed hprepare
    refine ⟨?_, hafter ▸ hfaithful, ?_⟩
    · rw [hafter, hstore]
      exact hgrounded.keyed
    · intro key project hstored
      rw [hafter, hstore] at hstored
      obtain ⟨position, horigin⟩ := hgrounded.stored key project hstored
      refine ⟨position, horigin.later fun job hjob => ?_⟩
      rw [hprepare] at hjob
      cases hjob
  · obtain ⟨-, hfaithful, cache, hresolved⟩ := Answers.prepare_eq_ok saving kinds
      hsteady.loadPlugins hgrounded.faithful hgrounded.keyed hprepare
    have hpublished := hresolved.published
    refine ⟨hafter ▸ hpublished.keyed hgrounded.keyed, hafter ▸ hfaithful, ?_⟩
    intro key stored hstored
    rw [hafter] at hstored
    rcases hresolved.own_or_owned with
      ⟨made, later, hproject, hkind, hmade⟩ | ⟨owner, howner, hkind, htakes⟩
    · refine hgrounded.stored_own hprepare hpublished ?_ hstored
      rw [hproject]
      refine (founded_of_own hsteady hkind (fun known hknown => ?_) hmade).markCompiled _
      obtain ⟨position, creator, -, hfounded, -⟩ := hgrounded.stored _ known hknown
      refine ⟨creator.task, hfounded, ?_⟩
      rw [← hfounded.projectFile]
      exact Setoid.symm (hgrounded.keyed _ known hknown)
    · exact hgrounded.stored_foreign hprepare hpublished (hgrounded.foreign hkind)
        (Store.findOwner_eq_some howner).2 htakes hstored

/-- What a run preserves. -/
theorem grounded_run (hsteady : answers.Steady) (saving : Saving δ) (kinds : SourceKinds)
    (disk : δ) (payloads : List Json) : Grounded answers saving kinds disk payloads := by
  induction payloads using List.reverseRecOn with
  | nil => exact grounded_nil
  | append_singleton payloads payload ih => exact ih.step hsteady payload

end Run

end CompileServer
