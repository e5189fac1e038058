import CompileServer.Proofs.Compile.Sample

/-!
# Coherent stores

What a store of projects looks like, whatever was asked before.  A project is made in
several ways: for its own file, again for a file that it lists, or not at all because
the one at hand will do.  Each way leaves a project that stands under its own file, whose
members are the source files of its options, that counts only files of its own as compiled,
and that shares its analysis with no other.
-/

namespace CompileServer

variable {σ α : Type}

/-- A project that makes sense by itself. -/
structure Project.Proper (kinds : SourceKinds) (project : Project α) : Prop where
  kind : kinds.classify project.projectFile = .project ∨
    kinds.classify project.projectFile = .script
  members : project.members = Path.distinct project.options.sourceFiles
  touched : project.compiled ≠ []
  within : ∀ file, project.isCompiled file = true →
    project.contains file = true ∨ file ≈ project.projectFile

namespace Project

variable {kinds : SourceKinds} {project owner : Project α} {file : Path}

theorem compiled_markCompiled_ne_nil (project : Project α) (file : Path) :
    (project.markCompiled file).compiled ≠ [] := by
  intro hnone
  have hmarked : (project.markCompiled file).isCompiled file = true :=
    (project.isCompiled_markCompiled file file).2 (Or.inl (Setoid.refl file))
  rw [isCompiled, hnone] at hmarked
  cases hmarked

/-- Marking one of its files leaves a project proper. -/
theorem Proper.markCompiled (hproper : owner.Proper kinds)
    (hcontains : owner.contains file = true) : (owner.markCompiled file).Proper kinds where
  kind := by
    rw [owner.markCompiled_projectFile]
    exact hproper.kind
  members := by
    rw [owner.markCompiled_members, owner.markCompiled_options]
    exact hproper.members
  touched := owner.compiled_markCompiled_ne_nil file
  within := by
    intro path hcompiled
    rw [owner.markCompiled_contains, owner.markCompiled_projectFile]
    rcases (owner.isCompiled_markCompiled file path).1 hcompiled with hsame | hbefore
    · left
      rw [contains, Path.isIn_congr hsame]
      exact hcontains
    · exact hproper.within path hbefore

end Project

/-- A project that was just made is proper once the file of the request is marked, if this
is the file of the project or one that it lists. -/
theorem Creation.proper {host : Host σ α} {task : CompileTask} {path : Path} {seed : Seed}
    {before after : Session σ α} {made : Project α} {kinds : SourceKinds}
    (hmade : Creation host task path seed before made after)
    (hkind : kinds.classify path = .project ∨ kinds.classify path = .script)
    (hfile : made.contains task.file = true ∨ task.file ≈ path) :
    (made.markCompiled task.file).Proper kinds where
  kind := by
    rw [made.markCompiled_projectFile, hmade.projectFile]
    exact hkind
  members := by
    rw [made.markCompiled_members, made.markCompiled_options]
    exact hmade.members
  touched := made.compiled_markCompiled_ne_nil task.file
  within := by
    intro file hcompiled
    have hsame : file ≈ task.file := (hmade.isCompiled_markCompiled task.file file).1 hcompiled
    rw [made.markCompiled_contains, made.markCompiled_projectFile, hmade.projectFile,
      Project.contains, Path.isIn_congr hsame]
    exact hfile.imp_right (Setoid.trans hsame)

namespace Store

variable {kinds : SourceKinds}

/-- Every stored project is proper. -/
def Proper (kinds : SourceKinds) (store : Store α) : Prop :=
  ∀ key project, store.get? key = some project → project.Proper kinds

theorem Proper.empty (kinds : SourceKinds) : (Store.empty : Store α).Proper kinds := by
  intro key project hstored
  cases hstored

theorem Proper.findOwner {store : Store α} (hproper : store.Proper kinds) {file : Path}
    {owner : Project α} (howner : store.findOwner file = some owner) :
    owner.contains file = true ∧ owner.Proper kinds := by
  obtain ⟨hcontains, key, hstored⟩ := findOwner_eq_some howner
  exact ⟨hcontains, hproper key owner hstored⟩

/-- A file that some project serves in place of one of its own is not the file of any
stored project. -/
theorem Proper.not_key {store : Store α} (hproper : store.Proper kinds)
    (hkeyed : store.Keyed) {file key : Path} {project : Project α}
    (hkind : kinds.classify file = .script ∧ store.get? file = none ∨
      kinds.classify file = .source)
    (hstored : store.get? key = some project) : ¬ file ≈ key := by
  intro hsame
  rcases hkind with ⟨-, hnone⟩ | hsource
  · rw [store.get?_congr hsame, hstored] at hnone
    cases hnone
  · have hkind := (hproper key project hstored).kind
    rw [← kinds.classify_congr (hkeyed key project hstored), ← kinds.classify_congr hsame,
      hsource] at hkind
    rcases hkind with hkind | hkind <;> cases hkind

/-- Projects that stand under one key only are pairwise unrelated in a store. -/
theorem pairwise_entries (store : Store α) (relation : Project α → Project α → Prop)
    (hone : ∀ left right first second, store.get? left = some first →
      store.get? right = some second → relation first second → left ≈ right) :
    store.entries.Pairwise fun first second => ¬ relation first.2 second.2 := by
  refine store.ordered.imp_of_mem ?_
  intro first second hfirst hsecond hless hrelated
  have hsame : first.1 ≈ second.1 :=
    hone first.1 second.1 first.2 second.2 (lookup_of_mem store.ordered hfirst)
      (lookup_of_mem store.ordered hsecond) hrelated
  exact Path.not_equiv_of_lt hless hsame

/-- The shape that a store of projects keeps. -/
structure Coherent (kinds : SourceKinds) (store : Store α) : Prop where
  /-- No two entries have one key, and no two are of one project. -/
  distinct : store.entries.Pairwise fun first second =>
    ¬ first.1 ≈ second.1 ∧ ¬ first.2.projectFile ≈ second.2.projectFile
  /-- A key is the file of its project. -/
  keyed : ∀ key project, (key, project) ∈ store.entries → key ≈ project.projectFile
  /-- A key is a manifest or a script. -/
  kind : ∀ key project, (key, project) ∈ store.entries →
    kinds.classify key = .project ∨ kinds.classify key = .script
  /-- The members of a project were collected from its options. -/
  collected : ∀ key project, (key, project) ∈ store.entries →
    project.members = Path.distinct project.options.sourceFiles
  /-- The members of a project are the source files of its options. -/
  members : ∀ key project, (key, project) ∈ store.entries → ∀ file : Path,
    file.isIn project.members = true ↔ ∃ listed ∈ project.options.sourceFiles, file ≈ listed
  /-- Some file of a project was compiled. -/
  touched : ∀ key project, (key, project) ∈ store.entries → project.compiled ≠ []
  /-- What was compiled is a member of the project or the file of the project. -/
  within : ∀ key project, (key, project) ∈ store.entries → ∀ file ∈ project.compiled,
    file.isIn project.members = true ∨ file ≈ project.projectFile
  /-- No two projects share the number of an analysis. -/
  numbered : store.entries.Pairwise fun first second =>
    first.2.generation ≠ second.2.generation

end Store

section Step

variable {host : Host σ α} {kinds : SourceKinds} {task : CompileTask}
  {before after : Session σ α} {outcome : Except Fault (Project α)} {project : Project α}

/-- Among proper projects, a request gets a proper one. -/
theorem Resolved.proper (hproper : before.store.Proper kinds)
    (hresolved : Resolved host kinds task before (.ok project) after) :
    project.Proper kinds := by
  cases hresolved with
  | rebuilt hdecided hmade =>
      cases hdecided with
      | own hkind => exact hmade.proper hkind (Or.inr (Setoid.refl task.file))
      | watch howner =>
          obtain ⟨hcontains, howner⟩ := hproper.findOwner howner
          refine hmade.proper howner.kind (Or.inl ?_)
          rw [Project.contains_congr (congrArg ProjectOptions.sourceFiles hmade.of_watch.1)]
          exact hcontains
  | reused howner =>
      obtain ⟨hcontains, howner⟩ := hproper.findOwner howner
      exact howner.markCompiled hcontains

/-- What one request preserves. -/
theorem Store.Proper.step (hproper : before.store.Proper kinds)
    (hresolved : Resolved host kinds task before outcome after) :
    after.store.Proper kinds := by
  cases outcome with
  | error fault =>
      cases hresolved with
      | failed hextends =>
          rw [hextends.store]
          exact hproper
  | ok got =>
      intro key stored hstored
      rw [hresolved.published key] at hstored
      split at hstored
      · cases hstored
        exact hresolved.proper hproper
      · exact hproper key stored hstored

end Step

namespace Ledger

variable {host : Host σ α} {kinds : SourceKinds} {ledger : Ledger σ α}

/-- What serving one request preserves, a run preserves. -/
theorem run_preserves {motive : Ledger σ α → Prop} (world : σ)
    (hstart : motive (start world))
    (hserve : ∀ ledger arrival, motive ledger → motive (ledger.serve host kinds arrival))
    (arrivals : List (Arrival σ)) : motive (run host kinds world arrivals) := by
  unfold run
  generalize start world = ledger at hstart ⊢
  induction arrivals generalizing ledger with
  | nil => exact hstart
  | cons arrival rest ih => exact ih _ (hserve ledger arrival hstart)

theorem resolved_next (host : Host σ α) (kinds : SourceKinds)
    (hkeyed : ledger.session.store.Keyed) (arrival : Arrival σ) :
    Resolved host.recorded kinds arrival.task (ledger.opened arrival)
      (ledger.next host kinds arrival).outcome (ledger.next host kinds arrival).after :=
  Work.resolved_resolve host.recorded kinds arrival.task hkeyed

/-- What serving one request preserves. -/
theorem proper_serve (host : Host σ α) (hkeyed : ledger.session.store.Keyed)
    (hproper : ledger.session.store.Proper kinds) (arrival : Arrival σ) :
    (ledger.serve host kinds arrival).session.store.Proper kinds := by
  have hopened : (ledger.opened arrival).store.Proper kinds := hproper
  exact hopened.step (resolved_next host kinds hkeyed arrival)

/-- Runs are lawful and keep every project proper. -/
theorem proper_run (host : Host σ α) (kinds : SourceKinds) (world : σ)
    (arrivals : List (Arrival σ)) :
    (run host kinds world arrivals).Lawful ∧
      (run host kinds world arrivals).session.store.Proper kinds := by
  apply run_preserves (motive := fun ledger =>
    ledger.Lawful ∧ ledger.session.store.Proper kinds)
  · exact ⟨lawful_start world, .empty kinds⟩
  · intro ledger arrival ⟨hlawful, hproper⟩
    exact ⟨hlawful.serve host kinds arrival,
      proper_serve host hlawful.current.keyed hproper arrival⟩

/-- Every run of requests leaves a coherent store. -/
theorem coherent_run (host : Host σ α) (kinds : SourceKinds) (world : σ)
    (arrivals : List (Arrival σ)) :
    (run host kinds world arrivals).session.store.Coherent kinds := by
  obtain ⟨hlawful, hproper⟩ := proper_run host kinds world arrivals
  generalize (run host kinds world arrivals) = ledger at hlawful hproper
  have hkeyed := hlawful.current.keyed
  have hfound : ∀ key project, (key, project) ∈ ledger.session.store.entries →
      ledger.session.store.get? key = some project :=
    fun key project hentry => Store.lookup_of_mem ledger.session.store.ordered hentry
  have hfiles : ledger.session.store.entries.Pairwise fun first second =>
      ¬ first.2.projectFile ≈ second.2.projectFile := by
    apply ledger.session.store.pairwise_entries fun first second =>
      first.projectFile ≈ second.projectFile
    intro left right first second hleft hright hsame
    have hsecond : first.projectFile ≈ right :=
      Setoid.trans hsame (Setoid.symm (hkeyed right second hright))
    exact Setoid.trans (hkeyed left first hleft) hsecond
  exact {
    distinct := by
      apply List.Pairwise.and _ hfiles
      exact ledger.session.store.ordered.imp Path.not_equiv_of_lt
    keyed := fun key project hentry => hkeyed key project (hfound key project hentry)
    kind := by
      intro key project hentry
      have hstored := hfound key project hentry
      rw [kinds.classify_congr (hkeyed key project hstored)]
      exact (hproper key project hstored).kind
    collected := fun key project hentry =>
      (hproper key project (hfound key project hentry)).members
    members := by
      intro key project hentry file
      rw [(hproper key project (hfound key project hentry)).members, Path.isIn_distinct,
        Path.isIn_iff]
    touched := fun key project hentry => (hproper key project (hfound key project hentry)).touched
    within := by
      intro key project hentry file hcompiled
      apply (hproper key project (hfound key project hentry)).within
      exact Path.isIn_iff.2 ⟨file, hcompiled, Setoid.refl file⟩
    numbered := by
      apply ledger.session.store.pairwise_entries fun first second =>
        first.generation = second.generation
      exact hlawful.owned.stored }

/-- A project and a script are made, a file of no project is refused, and a file of the project
has it checked again. -/
def twoProjects : List (Arrival Unit) :=
  [Sample.manifest, Sample.script, ⟨"/q/C.fs"⟩, Sample.firstFile, Sample.firstFile].map
    (Sample.arrival · [])

/-- Both projects list the same files, and each has compiled files and an analysis of its own. -/
theorem coherent_twoProjects :
    let store := (run Sample.host .standard () twoProjects).session.store
    (store.entries.map fun entry =>
        (entry.1, entry.2.generation, entry.2.members, entry.2.compiled)) =
      [(Sample.manifest, 3, [Sample.secondFile, Sample.firstFile], [Sample.firstFile]),
        (Sample.script, 2, [Sample.secondFile, Sample.firstFile], [Sample.script])] ∧
      store.Coherent .standard :=
  ⟨by decide +kernel, coherent_run Sample.host .standard () twoProjects⟩

end Ledger

end CompileServer
