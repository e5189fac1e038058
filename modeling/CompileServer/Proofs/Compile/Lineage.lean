import CompileServer.Proofs.Compile.Coherence
import CompileServer.Proofs.Compile.Questions

/-!
# The lineage of projects

A project has its options from the last request for its own file that was served, and
its runtime folder from the first.  Requests for the files that it lists leave both as
they are, however often they have the project checked again, and requests that fail
leave everything as it is.
-/

namespace CompileServer

variable {σ α : Type}

namespace CompileTask

/-- These are the options that the build tool derives for the file of a task, with the
source files normalised. -/
def Derives (host : Host σ α) (task : CompileTask) (world : σ) (options : ProjectOptions)
    (later : σ) : Prop :=
  ∃ derived, host.deriveOptions task.defines task.file world = (.ok (.ok derived), later) ∧
    options = { derived with sourceFiles := derived.sourceFiles.map (host.normalize later) }

/-- This is the runtime folder that the build tool finds for the file of a task when it
has derived the options. -/
def Finds (host : Host σ α) (task : CompileTask) (world : σ) (folder : Path) : Prop :=
  ∃ options later last, task.Derives host world options later ∧
    host.findRuntime task.file later = (.ok (.ok (some folder)), last)

variable {host : Host σ α} {task : CompileTask} {recorded : Recorded σ α}

/-- The record does not count. -/
theorem Derives.forget {options : ProjectOptions} {later : Recorded σ α}
    (hderives : task.Derives host.recorded recorded options later) :
    task.Derives host recorded.world options later.world := by
  obtain ⟨derived, hderived, hoptions⟩ := hderives
  refine ⟨derived, ?_, hoptions⟩
  obtain ⟨hanswer, rfl⟩ := Prod.mk.inj hderived
  exact Prod.ext hanswer rfl

theorem Finds.forget {folder : Path} (hfinds : task.Finds host.recorded recorded folder) :
    task.Finds host recorded.world folder := by
  obtain ⟨options, later, last, hderives, hfound⟩ := hfinds
  refine ⟨options, later.world, last.world, hderives.forget, ?_⟩
  obtain ⟨hanswer, rfl⟩ := Prod.mk.inj hfound
  exact Prod.ext hanswer rfl

end CompileTask

/-- The project is the owner but for its analysis and the files that were compiled. -/
structure Project.TakesAfter (project owner : Project α) : Prop where
  projectFile : project.projectFile = owner.projectFile
  options : project.options = owner.options
  runtimeFolder : project.runtimeFolder = owner.runtimeFolder

/-- Where a project comes from that a request gets. -/
inductive Obtained (host : Host σ α) (kinds : SourceKinds) (task : CompileTask)
    (before : Session σ α) (project : Project α) : Prop where
  /-- The request is for the file of the project. -/
  | own (hkind : kinds.classify task.file = .project ∨ kinds.classify task.file = .script)
      (hfile : project.projectFile = task.file)
      (hoptions : ∃ later, task.Derives host before.world project.options later)
      (hknown : ∀ known, before.store.get? task.file = some known →
        project.runtimeFolder = known.runtimeFolder)
      (hnew : before.store.get? task.file = none →
        task.Finds host before.world project.runtimeFolder) :
      Obtained host kinds task before project
  /-- The request is for a file that the project lists. -/
  | member {owner : Project α} (howner : before.store.findOwner task.file = some owner)
      (hkind : kinds.classify task.file = .script ∧ before.store.get? task.file = none ∨
        kinds.classify task.file = .source)
      (hkept : project.TakesAfter owner) : Obtained host kinds task before project

namespace Work

variable {host : Host σ α} {kinds : SourceKinds} {task : CompileTask}
  {before after : Session σ α}

/-- A project that takes nothing over has what the build tool says. -/
theorem finds_of_createProject {made : Project α}
    (hrun : createProject host task task.file .none before = (.ok made, after)) :
    task.Finds host before.world made.runtimeFolder := by
  rw [createProject_eq] at hrun
  obtain ⟨options, afterOptions, hoptions, hrun⟩ := bind_eq_ok hrun
  obtain ⟨folder, afterFolder, hfolder, hrun⟩ := bind_eq_ok hrun
  obtain ⟨checked, afterCheck, -, hrun⟩ := bind_eq_ok hrun
  obtain ⟨_, afterDump, -, hrun⟩ := bind_eq_ok hrun
  cases hrun
  -- The first two steps are the two questions to the build tool, in this order.
  obtain ⟨derived, middle, hderived, hrest⟩ := bind_eq_ok hoptions
  obtain ⟨world, hderive, rfl⟩ := attempt_eq_ok hderived
  cases hrest
  obtain ⟨found, later, hfound, hrest⟩ := bind_eq_ok hfolder
  obtain ⟨last, hfind, rfl⟩ := attempt_eq_ok hfound
  cases found with
  | none => cases hrest
  | some found =>
      cases hrest
      exact ⟨_, world, last, ⟨derived, hderive, rfl⟩, hfind⟩

theorem obtained_of_create {path : Path} {seed : Seed} {made : Project α}
    (hdecided : before.store.Decides kinds task.file (.rebuild path seed))
    (hcreate : createProject host task path seed before = (.ok made, after)) :
    Obtained host kinds task before (made.markCompiled task.file) := by
  have hmade := createProject_eq_ok hcreate
  cases hdecided with
  | own hkind =>
      apply Obtained.own hkind
      · rw [made.markCompiled_projectFile]
        exact hmade.projectFile
      · rw [made.markCompiled_options]
        rcases hmade.options with hkept | ⟨-, derived, world, hderived, hoptions⟩
        · cases hkept
        · exact ⟨world, derived, hderived, hoptions⟩
      · intro known hknown
        rw [made.markCompiled_runtimeFolder]
        rw [hknown] at hmade
        rcases hmade.runtimeFolder with hkept | ⟨hnone, -⟩
        · exact (Option.some.inj hkept).symm
        · cases hnone
      · intro hnew
        rw [made.markCompiled_runtimeFolder]
        rw [hnew, Seed.ofKnown_none] at hcreate
        exact finds_of_createProject hcreate
  | watch howner hkind =>
      apply Obtained.member howner (hkind.imp_right And.left)
      obtain ⟨hoptions, hfolder⟩ := hmade.of_watch
      exact {
        projectFile := (made.markCompiled_projectFile _).trans hmade.projectFile
        options := (made.markCompiled_options _).trans hoptions
        runtimeFolder := (made.markCompiled_runtimeFolder _).trans hfolder }

/-- A request gets the project of its own file or one that lists its file. -/
theorem obtained_of_resolve (hkeyed : before.store.Keyed) {project : Project α}
    (hrun : resolve host kinds task before = (.ok project, after)) :
    Obtained host kinds task before project := by
  have hdecided := before.store.decides_decide kinds task.file
  cases hdecision : before.store.decide kinds task.file with
  | rebuild path seed =>
      rw [hdecision] at hdecided
      cases hcreate : createProject host task path seed before with
      | mk outcome middle =>
          cases outcome with
          | error fault =>
              rw [resolve_of_fault hdecision hcreate] at hrun
              cases hrun
          | ok made =>
              rw [resolve_of_rebuild hdecision hcreate] at hrun
              cases hrun
              exact obtained_of_create hdecided hcreate
  | reuse path =>
      rw [hdecision] at hdecided
      cases hdecided with
      | @reuse owner howner hsource =>
          obtain ⟨-, key, hfound⟩ := Store.findOwner_eq_some howner
          rw [resolve_of_reuse hdecision (hkeyed.get?_projectFile hfound)] at hrun
          cases hrun
          exact .member howner (Or.inr hsource) {
            projectFile := owner.markCompiled_projectFile _
            options := owner.markCompiled_options _
            runtimeFolder := owner.markCompiled_runtimeFolder _ }
  | refuse error =>
      unfold resolve at hrun
      simp only [bind_of_ok (get_apply before), hdecision] at hrun
      cases hrun

end Work

namespace Ledger

/-- The last request for a file itself that got a project. -/
def lastFor? (ledger : Ledger σ α) (key : Path) : Option (Handled σ α) :=
  (ledger.past.filter fun handled =>
    handled.outcome.isOk && decide (handled.task.file ≈ key)).getLast?

/-- The first request that put a project under a key where there was none. -/
def firstFor? (ledger : Ledger σ α) (key : Path) : Option (Handled σ α) :=
  ledger.past.find? fun handled =>
    (handled.before.store.get? key).isNone && (handled.after.store.get? key).isSome

/-- What a stored project goes back to. -/
structure Traced (host : Host σ α) (ledger : Ledger σ α) (key : Path)
    (project : Project α) : Prop where
  /-- The options were derived, with the defines of the request, for the last request for the
  file of the project that was served. -/
  options : ∃ maker, ledger.lastFor? key = some maker ∧
    ∃ later, maker.task.Derives host maker.before.world.world project.options later
  /-- The runtime folder was found for the request that first put a project there. -/
  runtimeFolder : ∃ maker, ledger.firstFor? key = some maker ∧ maker.task.file ≈ key ∧
    maker.task.Finds host maker.before.world.world project.runtimeFolder

/-- Where the options and the runtime folders of projects come from. -/
structure Lineage (host : Host σ α) (kinds : SourceKinds) (ledger : Ledger σ α) : Prop where
  /-- Options and runtime folder of a stored project go back to the last and to the first
  request for its file. -/
  traced : ∀ key project, ledger.session.store.get? key = some project →
    ledger.Traced host key project
  /-- A request for another file than that of the project it gets takes options and runtime
  folder as it finds them. -/
  kept : ∀ handled ∈ ledger.past, ∀ project, handled.outcome = .ok project →
    ¬ handled.task.file ≈ project.projectFile →
    ∃ owner, handled.before.store.get? project.projectFile = some owner ∧
      project.TakesAfter owner
  /-- Options are derived for the file of a request alone, with its defines.  It is no source
  file, and no script that only belongs to a project of another file. -/
  derived : ∀ handled ∈ ledger.past, ∀ defines file,
    .deriveOptions defines file ∈ handled.after.world.calls →
    defines = handled.task.defines ∧ file = handled.task.file ∧
      handled.before.store.StandsAlone kinds file
  /-- The runtime folder of a project is never looked for once the project is stored. -/
  found : ∀ handled ∈ ledger.past, ∀ file,
    .findRuntime file ∈ handled.after.world.calls → handled.before.store.get? file = none
  /-- A key that was stored stays. -/
  stays : ∀ handled ∈ ledger.past, ∀ key, (handled.after.store.get? key).isSome = true →
    (ledger.session.store.get? key).isSome = true

variable {host : Host σ α} {kinds : SourceKinds} {ledger : Ledger σ α}
  {served : Handled σ α} {key : Path}

theorem lineage_start (host : Host σ α) (kinds : SourceKinds) (world : σ) :
    (start world : Ledger σ α).Lineage host kinds where
  traced _ _ hstored := by cases hstored
  kept _ hhandled := by cases hhandled
  derived _ hhandled := by cases hhandled
  found _ hhandled := by cases hhandled
  stays _ hhandled := by cases hhandled

/-- The last successful request for a file is the new one if it succeeded for that file. -/
theorem lastFor?_add : (ledger.add served).lastFor? key =
    if served.outcome.isOk && decide (served.task.file ≈ key) then some served
    else ledger.lastFor? key := by
  simp only [lastFor?, add, List.filter_append, List.filter_cons, List.filter_nil]
  split
  · rw [List.getLast?_concat]
  · rw [List.append_nil]

theorem lastFor?_add_self {got : Project α} (hgot : served.outcome = .ok got)
    (hfile : served.task.file ≈ key) : (ledger.add served).lastFor? key = some served := by
  rw [lastFor?_add, hgot, decide_eq_true hfile]
  rfl

theorem lastFor?_add_of_error {fault : Fault} (hfault : served.outcome = .error fault) :
    (ledger.add served).lastFor? key = ledger.lastFor? key := by
  rw [lastFor?_add, hfault]
  rfl

theorem lastFor?_add_of_not_equiv (hfile : ¬ served.task.file ≈ key) :
    (ledger.add served).lastFor? key = ledger.lastFor? key := by
  rw [lastFor?_add, decide_eq_false hfile, Bool.and_false]
  rfl

theorem firstFor?_add_of_some {maker : Handled σ α}
    (hmaker : ledger.firstFor? key = some maker) :
    (ledger.add served).firstFor? key = some maker := by
  simp only [firstFor?, add] at hmaker ⊢
  rw [List.find?_append, hmaker, Option.some_or]

/-- The request that stores a key for the first time is the first for it. -/
theorem Lineage.firstFor?_add_self (hlineage : ledger.Lineage host kinds)
    (hbefore : served.before.store = ledger.session.store)
    (hnew : ledger.session.store.get? key = none)
    (hstored : (served.after.store.get? key).isSome = true) :
    (ledger.add served).firstFor? key = some served := by
  have hnone : ledger.firstFor? key = none := by
    apply List.find?_eq_none.2
    intro handled hhandled hput
    simp only [Bool.and_eq_true] at hput
    have hstays := hlineage.stays handled hhandled key hput.2
    rw [hnew] at hstays
    cases hstays
  simp only [firstFor?, add] at hnone ⊢
  rw [List.find?_append, hnone, Option.none_or, List.find?_cons_of_pos]
  simp only [hbefore, hnew, hstored, Option.isNone_none, Bool.and_self]

/-- A request that does not touch a key leaves what is stored there. -/
theorem Traced.add {project : Project α} (htraced : ledger.Traced host key project)
    (hlast : (ledger.add served).lastFor? key = ledger.lastFor? key) :
    (ledger.add served).Traced host key project where
  options := by
    rw [hlast]
    exact htraced.options
  runtimeFolder := by
    obtain ⟨maker, hmaker, hfound⟩ := htraced.runtimeFolder
    exact ⟨maker, firstFor?_add_of_some hmaker, hfound⟩

theorem Traced.takesAfter {project owner : Project α} (htraced : ledger.Traced host key owner)
    (hkept : project.TakesAfter owner) : ledger.Traced host key project where
  options := by
    rw [hkept.options]
    exact htraced.options
  runtimeFolder := by
    rw [hkept.runtimeFolder]
    exact htraced.runtimeFolder

section Next

variable {arrival : Arrival σ} {got : Project α}

theorem store_next_of_error {fault : Fault} (hkeyed : ledger.session.store.Keyed)
    (hfault : (ledger.next host kinds arrival).outcome = .error fault) :
    (ledger.next host kinds arrival).after.store = ledger.session.store := by
  have hresolved := resolved_next host kinds hkeyed arrival
  rw [hfault] at hresolved
  cases hresolved with
  | failed hextends => exact hextends.store

theorem publishes_next (hkeyed : ledger.session.store.Keyed)
    (hgot : (ledger.next host kinds arrival).outcome = .ok got) :
    ledger.session.store.Publishes (ledger.next host kinds arrival).after.store got := by
  have hresolved := resolved_next host kinds hkeyed arrival
  rw [hgot] at hresolved
  exact hresolved.published

theorem obtained_next (hkeyed : ledger.session.store.Keyed)
    (hgot : (ledger.next host kinds arrival).outcome = .ok got) :
    Obtained host.recorded kinds arrival.task (ledger.opened arrival) got := by
  have hopened : (ledger.opened arrival).store.Keyed := hkeyed
  exact Work.obtained_of_resolve hopened (Prod.ext hgot rfl)

/-- A request loses no project. -/
theorem isSome_next (hkeyed : ledger.session.store.Keyed)
    (hstored : (ledger.session.store.get? key).isSome = true) :
    ((ledger.next host kinds arrival).after.store.get? key).isSome = true := by
  cases houtcome : (ledger.next host kinds arrival).outcome with
  | error fault =>
      rw [store_next_of_error hkeyed houtcome]
      exact hstored
  | ok got =>
      rw [publishes_next hkeyed houtcome key]
      by_cases hkey : key ≈ got.projectFile
      · rw [if_pos hkey]
        rfl
      · rw [if_neg hkey]
        exact hstored

/-- Every question of a request follows from the decision about it. -/
theorem asked_next {call : HostCall α}
    (hcall : call ∈ (ledger.next host kinds arrival).after.world.calls) :
    ∃ project seed,
      ledger.session.store.Decides kinds arrival.task.file (.rebuild project seed) ∧
      seed.Leaves arrival.task project call := by
  obtain ⟨asked, hcalls, hallowed⟩ :=
    Work.asks_resolve host kinds arrival.task (ledger.opened arrival)
  apply hallowed
  have hasked : (ledger.next host kinds arrival).after.world.calls = asked := hcalls
  rw [← hasked]
  exact hcall

/-- Whoever asks for a file that does not stand alone takes after its owner. -/
theorem Lineage.traced_next (hlineage : ledger.Lineage host kinds)
    (hkeyed : ledger.session.store.Keyed) (hproper : ledger.session.store.Proper kinds)
    (hgot : (ledger.next host kinds arrival).outcome = .ok got)
    {project : Project α}
    (hstored : (ledger.next host kinds arrival).after.store.get? key = some project) :
    (ledger.serve host kinds arrival).Traced host key project := by
  have hpublished := publishes_next hkeyed hgot
  have hobtained := obtained_next hkeyed hgot
  cases hobtained with
  | own hkind hfile hoptions hknown hnew =>
      rw [hpublished key, hfile] at hstored
      by_cases hkey : key ≈ arrival.task.file
      · rw [if_pos hkey] at hstored
        cases hstored
        constructor
        · obtain ⟨later, hderives⟩ := hoptions
          exact ⟨_, lastFor?_add_self hgot (Setoid.symm hkey), later.world, hderives.forget⟩
        · cases hbefore : ledger.session.store.get? key with
          | some known =>
              have hfolder : got.runtimeFolder = known.runtimeFolder := by
                apply hknown
                rw [← Store.get?_congr _ hkey]
                exact hbefore
              obtain ⟨maker, hmaker, hfound⟩ := (hlineage.traced key known hbefore).runtimeFolder
              rw [hfolder]
              exact ⟨maker, firstFor?_add_of_some hmaker, hfound⟩
          | none =>
              have hafter : ((ledger.next host kinds arrival).after.store.get? key).isSome =
                  true := by
                rw [hpublished key, hfile, if_pos hkey]
                rfl
              have hfinds : arrival.task.Finds host.recorded (ledger.opened arrival).world
                  got.runtimeFolder := by
                apply hnew
                rw [← Store.get?_congr _ hkey]
                exact hbefore
              exact ⟨_, hlineage.firstFor?_add_self rfl hbefore hafter, Setoid.symm hkey,
                hfinds.forget⟩
      · rw [if_neg hkey] at hstored
        apply (hlineage.traced key project hstored).add
        apply lastFor?_add_of_not_equiv
        exact fun hsame => hkey (Setoid.symm hsame)
  | @member owner howner hkind hkept =>
      have hother : ∀ known, ledger.session.store.get? key = some known →
          (ledger.serve host kinds arrival).lastFor? key = ledger.lastFor? key := by
        intro known hbefore
        apply lastFor?_add_of_not_equiv
        exact hproper.not_key hkeyed hkind hbefore
      rw [hpublished key] at hstored
      by_cases hkey : key ≈ got.projectFile
      · rw [if_pos hkey] at hstored
        cases hstored
        obtain ⟨-, ownKey, hfound⟩ := Store.findOwner_eq_some howner
        have hbefore : ledger.session.store.get? key = some owner := by
          rw [Store.get?_congr _ hkey, hkept.projectFile]
          exact hkeyed.get?_projectFile hfound
        have htraced := (hlineage.traced key owner hbefore).takesAfter hkept
        exact htraced.add (hother owner hbefore)
      · rw [if_neg hkey] at hstored
        exact (hlineage.traced key project hstored).add (hother project hstored)

/-- What one request preserves. -/
theorem Lineage.step (hlineage : ledger.Lineage host kinds)
    (hkeyed : ledger.session.store.Keyed) (hproper : ledger.session.store.Proper kinds)
    (arrival : Arrival σ) : (ledger.serve host kinds arrival).Lineage host kinds where
  traced := by
    intro key project hstored
    cases houtcome : (ledger.next host kinds arrival).outcome with
    | ok got => exact hlineage.traced_next hkeyed hproper houtcome hstored
    | error fault =>
        have hbefore : ledger.session.store.get? key = some project := by
          rw [← store_next_of_error hkeyed houtcome]
          exact hstored
        exact (hlineage.traced key project hbefore).add (lastFor?_add_of_error houtcome)
  kept := by
    intro handled hhandled project hgot hfile
    rcases mem_add.1 hhandled with hpast | rfl
    · exact hlineage.kept handled hpast project hgot hfile
    · cases obtained_next hkeyed hgot with
      | own _ hown =>
          rw [hown] at hfile
          exact absurd (Setoid.refl _) hfile
      | @member owner howner _ hkept =>
          obtain ⟨-, key, hfound⟩ := Store.findOwner_eq_some howner
          refine ⟨owner, ?_, hkept⟩
          rw [hkept.projectFile]
          exact hkeyed.get?_projectFile hfound
  derived := by
    intro handled hhandled defines file hcall
    rcases mem_add.1 hhandled with hpast | rfl
    · exact hlineage.derived handled hpast defines file hcall
    · obtain ⟨project, seed, hdecided, hleaves⟩ := asked_next hcall
      obtain ⟨hdefines, rfl, halone⟩ := hdecided.derives hleaves
      exact ⟨hdefines, rfl, halone⟩
  found := by
    intro handled hhandled file hcall
    rcases mem_add.1 hhandled with hpast | rfl
    · exact hlineage.found handled hpast file hcall
    · obtain ⟨project, seed, hdecided, hleaves⟩ := asked_next hcall
      obtain ⟨rfl, hnone⟩ := hdecided.finds hleaves
      exact hnone
  stays := by
    intro handled hhandled key hput
    rcases mem_add.1 hhandled with hpast | rfl
    · exact isSome_next hkeyed (hlineage.stays handled hpast key hput)
    · exact hput

end Next

/-- Every run of requests keeps to the lineage of its projects. -/
theorem lineage_run (host : Host σ α) (kinds : SourceKinds) (world : σ)
    (arrivals : List (Arrival σ)) : (run host kinds world arrivals).Lineage host kinds := by
  have hall : (run host kinds world arrivals).Lawful ∧
      (run host kinds world arrivals).session.store.Proper kinds ∧
      (run host kinds world arrivals).Lineage host kinds := by
    apply run_preserves (motive := fun ledger =>
      ledger.Lawful ∧ ledger.session.store.Proper kinds ∧ ledger.Lineage host kinds)
    · exact ⟨lawful_start world, .empty kinds, lineage_start host kinds world⟩
    · intro ledger arrival ⟨hlawful, hproper, hlineage⟩
      have hkeyed := hlawful.current.keyed
      exact ⟨hlawful.serve host kinds arrival, proper_serve host hkeyed hproper arrival,
        hlineage.step hkeyed hproper arrival⟩
  exact hall.2.2

/-- A project is asked for twice, with other defines the second time, and is then checked again
for one of its files. -/
def laterDefines : List (Arrival Unit) :=
  [Sample.arrival Sample.manifest ["FIRST"], Sample.arrival Sample.manifest ["SECOND"],
    Sample.arrival Sample.firstFile ["THIRD"], Sample.arrival Sample.firstFile ["THIRD"]]

/-- The project that was checked again has the defines of the second request for it. -/
theorem lineage_laterDefines :
    let ledger := run Sample.host .standard () laterDefines
    (ledger.session.store.projects.map fun project =>
        (project.generation, project.options.defines, project.runtimeFolder)) =
      [(3, ["SECOND"], ⟨"/p/runtime"⟩)] ∧
      ledger.Lineage Sample.host .standard :=
  ⟨by decide +kernel, lineage_run Sample.host .standard () laterDefines⟩

end Ledger

end CompileServer
