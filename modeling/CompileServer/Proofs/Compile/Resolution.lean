import CompileServer.Proofs.Compile.Work
import CompileServer.Proofs.Project.Store

/-!
# Resolving a request

What a request can do to a session, said once: which decisions there are and when each
is taken, what a project is made of, and how the store differs afterwards.  A request
that is served publishes one project and leaves every other key as it was; a request
that fails leaves the store alone.
-/

namespace CompileServer

variable {σ α : Type}

/-- What a project takes over that is made anew under its own path. -/
def Seed.ofKnown (known : Option (Project α)) : Seed :=
  ⟨.none, known.map Project.runtimeFolder⟩

theorem Seed.ofKnown_none : Seed.ofKnown (Option.none : Option (Project α)) = .none :=
  rfl

theorem Seed.ofKnown_some (known : Project α) : Seed.ofKnown (some known) = .lineage known :=
  rfl

namespace Store

/-- The decisions about a file, each with what leads to it. -/
inductive Decides (store : Store α) (kinds : SourceKinds) (file : Path) : Decision → Prop where
  | own (hkind : kinds.classify file = .project ∨ kinds.classify file = .script)
      (hfree : kinds.classify file = .script → store.get? file = none →
        store.findOwner file = none) :
      Decides store kinds file (.rebuild file (.ofKnown (store.get? file)))
  | watch {owner : Project α} (howner : store.findOwner file = some owner)
      (hkind : kinds.classify file = .script ∧ store.get? file = none ∨
        kinds.classify file = .source ∧ owner.isCompiled file = true) :
      Decides store kinds file (.rebuild owner.projectFile (.watch owner))
  | reuse {owner : Project α} (howner : store.findOwner file = some owner)
      (hsource : kinds.classify file = .source) (hfresh : owner.isCompiled file = false) :
      Decides store kinds file (.reuse owner.projectFile)
  | foreign (hsource : kinds.classify file = .source)
      (howner : store.findOwner file = none) :
      Decides store kinds file (.refuse (.notInProject file store.projectFiles))
  | signature (hkind : kinds.classify file = .signature) :
      Decides store kinds file (.refuse (.signatureFile file))
  | other (hkind : kinds.classify file = .other) :
      Decides store kinds file (.refuse (.unsupportedFile file))

theorem decides_decide (store : Store α) (kinds : SourceKinds) (file : Path) :
    store.Decides kinds file (store.decide kinds file) := by
  cases hkind : kinds.classify file with
  | project =>
      have hown : store.Decides kinds file _ :=
        .own (Or.inl hkind) fun hscript => by rw [hkind] at hscript; cases hscript
      cases hknown : store.get? file with
      | none =>
          rw [hknown, Seed.ofKnown_none] at hown
          simpa only [decide, hkind, hknown] using hown
      | some known =>
          rw [hknown, Seed.ofKnown_some] at hown
          simpa only [decide, hkind, hknown] using hown
  | script =>
      cases hknown : store.get? file with
      | some known =>
          have hown : store.Decides kinds file _ :=
            .own (Or.inr hkind) fun _ hnone => by rw [hknown] at hnone; cases hnone
          rw [hknown, Seed.ofKnown_some] at hown
          simpa only [decide, hkind, hknown] using hown
      | none =>
          cases howner : store.findOwner file with
          | some owner =>
              simpa only [decide, hkind, hknown, howner] using
                Decides.watch howner (Or.inl ⟨hkind, hknown⟩)
          | none =>
              have hown : store.Decides kinds file _ :=
                .own (Or.inr hkind) fun _ _ => howner
              rw [hknown, Seed.ofKnown_none] at hown
              simpa only [decide, hkind, hknown, howner] using hown
  | source =>
      cases howner : store.findOwner file with
      | none =>
          simpa only [decide, hkind, howner] using Decides.foreign hkind howner
      | some owner =>
          cases hcompiled : owner.isCompiled file with
          | true =>
              simpa only [decide, hkind, howner, hcompiled, if_true] using
                Decides.watch howner (Or.inr ⟨hkind, hcompiled⟩)
          | false =>
              simpa only [decide, hkind, howner, hcompiled, Bool.false_eq_true, if_false]
                using Decides.reuse howner hkind hcompiled
  | signature => simpa only [decide, hkind] using Decides.signature hkind
  | other => simpa only [decide, hkind] using Decides.other hkind

/-- What to do about a source file that belongs to a project. -/
theorem decide_source {store : Store α} {kinds : SourceKinds} {file : Path}
    {owner : Project α} (hsource : kinds.classify file = .source)
    (howner : store.findOwner file = some owner) :
    store.decide kinds file =
      if owner.isCompiled file then .rebuild owner.projectFile (.watch owner)
      else .reuse owner.projectFile := by
  simp only [decide, hsource, howner]

/-- In an empty store, a manifest or a script is a new project. -/
theorem decide_empty {kinds : SourceKinds} {file : Path}
    (hkind : kinds.classify file = .project ∨ kinds.classify file = .script) :
    (empty : Store α).decide kinds file = .rebuild file .none := by
  rcases hkind with hkind | hkind <;> simp only [decide, hkind] <;> rfl

/-- The later store has a project under its project file, and is like the earlier one
under every other key. -/
def Publishes (before after : Store α) (project : Project α) : Prop :=
  ∀ key, after.get? key =
    if key ≈ project.projectFile then some project else before.get? key

theorem Publishes.keyed {before after : Store α} {project : Project α}
    (hpublished : before.Publishes after project) (hkeyed : before.Keyed) : after.Keyed := by
  intro key found hfound
  rw [hpublished key] at hfound
  split at hfound
  · rename_i hkey
    cases hfound
    exact hkey
  · exact hkeyed key found hfound

theorem publishes_insert (store : Store α) (made : Project α) (file : Path) :
    store.Publishes
      ((store.insert made).modify made.projectFile fun found => found.markCompiled file)
      (made.markCompiled file) := by
  intro key
  rw [get?_modify, get?_insert, Project.markCompiled_projectFile]
  by_cases hkey : key ≈ made.projectFile
  · rw [if_pos hkey, if_pos hkey, Option.map_some, if_pos (Setoid.symm hkey)]
  · rw [if_neg hkey, if_neg hkey]
    cases store.get? key with
    | none => rfl
    | some found => rw [Option.map_some, if_neg fun h => hkey (Setoid.symm h)]

theorem publishes_modify {store : Store α} {owner : Project α}
    (hstored : store.get? owner.projectFile = some owner) (file : Path) :
    store.Publishes
      (store.modify owner.projectFile fun found => found.markCompiled file)
      (owner.markCompiled file) := by
  intro key
  rw [get?_modify, Project.markCompiled_projectFile]
  by_cases hkey : key ≈ owner.projectFile
  · rw [if_pos hkey, store.get?_congr hkey, hstored, Option.map_some,
      if_pos (Setoid.symm hkey)]
  · rw [if_neg hkey]
    cases store.get? key with
    | none => rfl
    | some found => rw [Option.map_some, if_neg fun h => hkey (Setoid.symm h)]

end Store

/-- The projects and the plugins are as before, and analyses are numbered upwards. -/
structure Session.Extends (before after : Session σ α) : Prop where
  store : after.store = before.store
  plugins : after.plugins = before.plugins
  analyses : before.analyses ≤ after.analyses

namespace Session.Extends

theorem trans {a b c : Session σ α} (hab : a.Extends b) (hbc : b.Extends c) : a.Extends c where
  store := hbc.store.trans hab.store
  plugins := hbc.plugins.trans hab.plugins
  analyses := Nat.le_trans hab.analyses hbc.analyses

theorem refl (session : Session σ α) : session.Extends session :=
  ⟨rfl, rfl, Nat.le_refl _⟩

end Session.Extends

namespace Work

/-- The options of a project that is made: those of the seed, if it has any. -/
def seededOptions (host : Host σ α) (task : CompileTask) (project : Path) (seed : Seed) :
    Work σ α ProjectOptions :=
  match seed.options with
  | some options => pure options
  | none => deriveOptions host task project

/-- The runtime folder of a project that is made: that of the seed, if it has any. -/
def seededFolder (host : Host σ α) (project : Path) (seed : Seed) : Work σ α Path :=
  match seed.runtimeFolder with
  | some folder => pure folder
  | none => findRuntime host project

/-- Writes a dump if the task asks for one. -/
def dumpIfAsked (host : Host σ α) (task : CompileTask) (project : Path)
    (options : ProjectOptions) (diagnostics : List Diagnostic) (analysis : Analysis α) :
    Work σ α Unit :=
  match task.dumpFolder with
  | some folder => dump host folder project options diagnostics analysis
  | none => pure ()

theorem createProject_eq (host : Host σ α) (task : CompileTask) (project : Path)
    (seed : Seed) :
    createProject host task project seed =
      (do
        let options ← seededOptions host task project seed
        let folder ← seededFolder host project seed
        let checked ← check host project options
        dumpIfAsked host task project options checked.1 checked.2
        writeLog fun log => checked.1.foldl Log.diagnostic log
        return .fresh project options folder checked.2) := by
  unfold createProject seededOptions seededFolder dumpIfAsked
  cases seed.options <;> cases seed.runtimeFolder <;> cases task.dumpFolder <;> rfl

/-- A relation between sessions that writing a dump respects. -/
structure RespectsDump (host : Host σ α)
    (relation : Session σ α → Session σ α → Prop) : Prop where
  refl : ∀ session, relation session session
  trans : ∀ {a b c}, relation a b → relation b c → relation a c
  describe : ∀ analysis session, relation session
    { session with world := (host.describe analysis session.world).2 }
  save : ∀ folder file text session, relation session
    { session with world := (host.save folder file text session.world).2 }
  writeLog : ∀ (change : Log → Log) session,
    relation session { session with log := change session.log }

/-- A relation between sessions that every step of making a project respects.  A seed
spares the build tool the questions that it answers. -/
structure Respects (host : Host σ α) (task : CompileTask) (project : Path) (seed : Seed)
    (relation : Session σ α → Session σ α → Prop) : Prop
    extends RespectsDump host relation where
  deriveOptions : seed.options = none → ∀ session, relation session
    { session with world := (host.deriveOptions task.defines project session.world).2 }
  findRuntime : seed.runtimeFolder = none → ∀ session, relation session
    { session with world := (host.findRuntime project session.world).2 }
  check : ∀ options, Keeps relation (Work.check host project options)

theorem RespectsDump.dumpIfAsked {host : Host σ α}
    {relation : Session σ α → Session σ α → Prop} (hrespects : RespectsDump host relation)
    (task : CompileTask) (project : Path) (options : ProjectOptions)
    (diagnostics : List Diagnostic) (analysis : Analysis α) :
    Keeps relation (dumpIfAsked host task project options diagnostics analysis) := by
  unfold Work.dumpIfAsked
  split
  · refine Keeps.bind hrespects.trans (Keeps.call (hrespects.describe analysis)) fun _ => ?_
    refine Keeps.bind hrespects.trans (hrespects.save _ _ _) fun saved => ?_
    cases saved with
    | ok _ => exact hrespects.refl
    | error _ => exact Keeps.writeLog hrespects.writeLog
  · exact hrespects.refl

section Frame

variable {host : Host σ α} {task : CompileTask} {project : Path} {seed : Seed}
  {relation : Session σ α → Session σ α → Prop}

theorem Respects.seededOptions (hrespects : Respects host task project seed relation) :
    Keeps relation (seededOptions host task project seed) := by
  unfold Work.seededOptions
  split
  · exact hrespects.refl
  · rename_i hseed
    refine Keeps.bind hrespects.trans (Keeps.attempt (hrespects.deriveOptions hseed)) ?_
    exact fun _ => hrespects.refl

theorem Respects.seededFolder (hrespects : Respects host task project seed relation) :
    Keeps relation (seededFolder host project seed) := by
  unfold Work.seededFolder
  split
  · exact hrespects.refl
  · rename_i hseed
    refine Keeps.bind hrespects.trans (Keeps.attempt (hrespects.findRuntime hseed)) ?_
    intro found
    cases found <;> exact hrespects.refl

/-- What every step of making a project respects, making it respects. -/
theorem Respects.createProject (hrespects : Respects host task project seed relation) :
    Keeps relation (createProject host task project seed) := by
  rw [createProject_eq]
  refine Keeps.bind hrespects.trans hrespects.seededOptions fun options => ?_
  refine Keeps.bind hrespects.trans hrespects.seededFolder fun folder => ?_
  refine Keeps.bind hrespects.trans (hrespects.check options) fun checked => ?_
  have hdump := hrespects.toRespectsDump.dumpIfAsked task project options checked.1 checked.2
  refine Keeps.bind hrespects.trans hdump fun _ => ?_
  refine Keeps.bind hrespects.trans (Keeps.writeLog hrespects.writeLog) fun _ => ?_
  exact hrespects.refl

end Frame

theorem respects_extends (host : Host σ α) (task : CompileTask) (project : Path)
    (seed : Seed) : Respects host task project seed Session.Extends where
  refl := Session.Extends.refl
  trans := Session.Extends.trans
  deriveOptions _ _ := ⟨rfl, rfl, Nat.le_refl _⟩
  findRuntime _ _ := ⟨rfl, rfl, Nat.le_refl _⟩
  check options := by
    refine Keeps.bind Session.Extends.trans ?_ fun _ _ => ⟨rfl, rfl, Nat.le_succ _⟩
    exact Keeps.attempt fun _ => ⟨rfl, rfl, Nat.le_refl _⟩
  describe _ _ := ⟨rfl, rfl, Nat.le_refl _⟩
  save _ _ _ _ := ⟨rfl, rfl, Nat.le_refl _⟩
  writeLog _ _ := ⟨rfl, rfl, Nat.le_refl _⟩

end Work

/-- How a project that was made came about: its options and its runtime folder are those
of the seed or of the build tool, and its analysis is the next one. -/
structure Creation (host : Host σ α) (task : CompileTask) (project : Path) (seed : Seed)
    (before : Session σ α) (made : Project α) (after : Session σ α) : Prop where
  projectFile : made.projectFile = project
  members : made.members = Path.distinct made.options.sourceFiles
  compiled : made.compiled = []
  generation : made.generation = before.analyses + 1
  analyses : after.analyses = before.analyses + 1
  options : seed.options = some made.options ∨ seed.options = none ∧
    ∃ derived world,
      host.deriveOptions task.defines project before.world = (.ok (.ok derived), world) ∧
      made.options =
        { derived with sourceFiles := derived.sourceFiles.map (host.normalize world) }
  runtimeFolder : seed.runtimeFolder = some made.runtimeFolder ∨ seed.runtimeFolder = none ∧
    ∃ world later,
      host.findRuntime project world = (.ok (.ok (some made.runtimeFolder)), later)
  checked : ∃ world diagnostics later,
    host.check made.options world = (.ok (.ok (diagnostics, made.analysis.value)), later)

theorem Creation.restore {host : Host σ α} {task : CompileTask} {project : Path} {seed : Seed}
    {before after : Session σ α} {made : Project α}
    (hmade : Creation host task project seed before made after) (store : Store α) :
    Creation host task project seed before made { after with store := store } :=
  { hmade with analyses := hmade.analyses }

/-- A project that is checked again keeps its options and its runtime folder. -/
theorem Creation.of_watch {host : Host σ α} {task : CompileTask} {owner made : Project α}
    {before after : Session σ α}
    (hmade : Creation host task owner.projectFile (.watch owner) before made after) :
    made.options = owner.options ∧ made.runtimeFolder = owner.runtimeFolder := by
  constructor
  · rcases hmade.options with hkept | ⟨hnone, -⟩
    · exact (Option.some.inj hkept).symm
    · cases hnone
  · rcases hmade.runtimeFolder with hkept | ⟨hnone, -⟩
    · exact (Option.some.inj hkept).symm
    · cases hnone

/-- Of a project that was just made, only the file of the request is compiled. -/
theorem Creation.isCompiled_markCompiled {host : Host σ α} {task : CompileTask}
    {project : Path} {seed : Seed} {before after : Session σ α} {made : Project α}
    (hmade : Creation host task project seed before made after) (file path : Path) :
    (made.markCompiled file).isCompiled path = true ↔ path ≈ file := by
  rw [Project.isCompiled_markCompiled, Project.isCompiled, hmade.compiled]
  exact or_iff_left Bool.false_ne_true

namespace Work

variable {host : Host σ α} {task : CompileTask} {project : Path} {seed : Seed}
  {before after : Session σ α}

theorem seededOptions_eq_ok {options : ProjectOptions}
    (hrun : seededOptions host task project seed before = (.ok options, after)) :
    after.analyses = before.analyses ∧
      (seed.options = some options ∨ seed.options = none ∧ ∃ derived world,
        host.deriveOptions task.defines project before.world = (.ok (.ok derived), world) ∧
        options =
          { derived with sourceFiles := derived.sourceFiles.map (host.normalize world) }) := by
  cases hseed : seed.options with
  | some kept =>
      simp only [seededOptions, hseed] at hrun
      cases hrun
      exact ⟨rfl, Or.inl rfl⟩
  | none =>
      simp only [seededOptions, hseed] at hrun
      obtain ⟨derived, middle, hderived, hrest⟩ := bind_eq_ok hrun
      obtain ⟨world, hcall, rfl⟩ := attempt_eq_ok hderived
      cases hrest
      exact ⟨rfl, Or.inr ⟨rfl, derived, world, hcall, rfl⟩⟩

theorem seededFolder_eq_ok {folder : Path}
    (hrun : seededFolder host project seed before = (.ok folder, after)) :
    after.analyses = before.analyses ∧
      (seed.runtimeFolder = some folder ∨ seed.runtimeFolder = none ∧ ∃ world later,
        host.findRuntime project world = (.ok (.ok (some folder)), later)) := by
  cases hseed : seed.runtimeFolder with
  | some kept =>
      simp only [seededFolder, hseed] at hrun
      cases hrun
      exact ⟨rfl, Or.inl rfl⟩
  | none =>
      simp only [seededFolder, hseed] at hrun
      obtain ⟨found, middle, hfound, hrest⟩ := bind_eq_ok hrun
      obtain ⟨world, hcall, rfl⟩ := attempt_eq_ok hfound
      cases found with
      | none => cases hrest
      | some found =>
          cases hrest
          exact ⟨rfl, Or.inr ⟨rfl, _, world, hcall⟩⟩

theorem check_eq_ok {options : ProjectOptions} {checked : List Diagnostic × Analysis α}
    (hrun : check host project options before = (.ok checked, after)) :
    ∃ world, host.check options before.world =
        (.ok (.ok (checked.1, checked.2.value)), world) ∧
      checked.2.generation = before.analyses + 1 ∧ after.analyses = before.analyses + 1 := by
  unfold check at hrun
  obtain ⟨found, middle, hfound, hrest⟩ := bind_eq_ok hrun
  obtain ⟨world, hcall, rfl⟩ := attempt_eq_ok hfound
  cases hrest
  exact ⟨world, hcall, rfl, rfl⟩

theorem respectsDump_analyses (host : Host σ α) :
    RespectsDump host fun before after => after.analyses = before.analyses where
  refl _ := rfl
  trans hab hbc := hbc.trans hab
  describe _ _ := rfl
  save _ _ _ _ := rfl
  writeLog _ _ := rfl

theorem createProject_eq_ok {made : Project α}
    (hrun : createProject host task project seed before = (.ok made, after)) :
    Creation host task project seed before made after := by
  rw [createProject_eq] at hrun
  obtain ⟨options, afterOptions, hoptions, hrun⟩ := bind_eq_ok hrun
  obtain ⟨folder, afterFolder, hfolder, hrun⟩ := bind_eq_ok hrun
  obtain ⟨checked, afterCheck, hchecked, hrun⟩ := bind_eq_ok hrun
  obtain ⟨_, afterDump, hdumped, hrun⟩ := bind_eq_ok hrun
  cases hrun
  obtain ⟨hsame, hoptions⟩ := seededOptions_eq_ok hoptions
  obtain ⟨hsameToo, hfolder⟩ := seededFolder_eq_ok hfolder
  obtain ⟨_, hcheck, hgeneration, hnumbered⟩ := check_eq_ok hchecked
  have hdump : _ = _ :=
    (respectsDump_analyses host).dumpIfAsked task project options checked.1 checked.2 afterCheck
  rw [hdumped] at hdump
  rw [hsameToo, hsame] at hgeneration hnumbered
  exact {
    projectFile := rfl
    members := rfl
    compiled := rfl
    generation := hgeneration
    analyses := hdump.trans hnumbered
    options := hoptions
    runtimeFolder := hfolder
    checked := ⟨_, _, _, hcheck⟩ }

end Work

/-- What resolving a request comes to. -/
inductive Resolved (host : Host σ α) (kinds : SourceKinds) (task : CompileTask)
    (before : Session σ α) : Except Fault (Project α) → Session σ α → Prop where
  | rebuilt {project : Path} {seed : Seed} {made : Project α} {after : Session σ α}
      (hdecided : before.store.Decides kinds task.file (.rebuild project seed))
      (hmade : Creation host task project seed before made after)
      (hpublished : before.store.Publishes after.store (made.markCompiled task.file))
      (hplugins : after.plugins = before.plugins) :
      Resolved host kinds task before (.ok (made.markCompiled task.file)) after
  | reused {owner : Project α} {after : Session σ α}
      (howner : before.store.findOwner task.file = some owner)
      (hstored : before.store.get? owner.projectFile = some owner)
      (hsource : kinds.classify task.file = .source)
      (hfresh : owner.isCompiled task.file = false)
      (hpublished : before.store.Publishes after.store (owner.markCompiled task.file))
      (hafter : after = { before with store := after.store }) :
      Resolved host kinds task before (.ok (owner.markCompiled task.file)) after
  | failed {fault : Fault} {after : Session σ α} (hextends : before.Extends after) :
      Resolved host kinds task before (.error fault) after

/-- Resolving a request loads no plugins. -/
theorem Resolved.plugins {host : Host σ α} {kinds : SourceKinds} {task : CompileTask}
    {before after : Session σ α} {outcome : Except Fault (Project α)}
    (hresolved : Resolved host kinds task before outcome after) :
    after.plugins = before.plugins := by
  cases hresolved with
  | rebuilt _ _ _ hplugins => exact hplugins
  | reused _ _ _ _ _ hafter => rw [hafter]
  | failed hextends => exact hextends.plugins

/-- A request that gets a project leaves it in the store. -/
theorem Resolved.published {host : Host σ α} {kinds : SourceKinds} {task : CompileTask}
    {before after : Session σ α} {project : Project α}
    (hresolved : Resolved host kinds task before (.ok project) after) :
    before.store.Publishes after.store project := by
  cases hresolved with
  | rebuilt _ _ hpublished => exact hpublished
  | reused _ _ _ _ hpublished => exact hpublished

namespace Work

theorem markCompiled_apply {session : Session σ α} {key file : Path} {project : Project α}
    (hstored : session.store.get? key = some project) :
    markCompiled key file session =
      (.ok (project.markCompiled file),
        { session with
          store := session.store.modify key fun found => found.markCompiled file }) := by
  unfold markCompiled
  rw [bind_of_ok (get_apply session), Store.markCompiled, hstored]
  rfl

/-- Marking a file changes the store alone. -/
theorem markCompiled_session (session : Session σ α) (key file : Path) :
    ∃ store, (markCompiled key file session).2 = { session with store := store } := by
  unfold markCompiled
  rw [bind_of_ok (get_apply session)]
  cases session.store.markCompiled key file with
  | some marked => exact ⟨marked.2, rfl⟩
  | none => exact ⟨session.store, rfl⟩

theorem resolve_of_rebuild {session middle : Session σ α} {kinds : SourceKinds}
    {made : Project α}
    (hdecision : session.store.decide kinds task.file = .rebuild project seed)
    (hcreate : createProject host task project seed session = (.ok made, middle)) :
    resolve host kinds task session =
      (.ok (made.markCompiled task.file),
        { middle with
          store := (middle.store.insert made).modify project fun found =>
            found.markCompiled task.file }) := by
  have hstored : (middle.store.insert made).get? project = some made := by
    rw [Store.get?_insert, (createProject_eq_ok hcreate).projectFile,
      if_pos (Setoid.refl _)]
  unfold resolve
  simp only [bind_of_ok (get_apply session), hdecision, bind_of_ok hcreate,
    bind_of_ok (modify_apply _ _)]
  exact markCompiled_apply hstored

theorem resolve_of_fault {session middle : Session σ α} {kinds : SourceKinds} {fault : Fault}
    (hdecision : session.store.decide kinds task.file = .rebuild project seed)
    (hcreate : createProject host task project seed session = (.error fault, middle)) :
    resolve host kinds task session = (.error fault, middle) := by
  unfold resolve
  simp only [bind_of_ok (get_apply session), hdecision, bind_of_error hcreate]

theorem resolve_of_reuse {session : Session σ α} {kinds : SourceKinds} {owner : Project α}
    (hdecision : session.store.decide kinds task.file = .reuse owner.projectFile)
    (hstored : session.store.get? owner.projectFile = some owner) :
    resolve host kinds task session =
      (.ok (owner.markCompiled task.file),
        { session with
          store := session.store.modify owner.projectFile fun found =>
            found.markCompiled task.file }) := by
  unfold resolve
  simp only [bind_of_ok (get_apply session), hdecision]
  exact markCompiled_apply hstored

theorem resolve_of_refuse {session : Session σ α} {kinds : SourceKinds} {error : CompileError}
    (hdecision : session.store.decide kinds task.file = .refuse error) :
    resolve host kinds task session = (.error (.rejected error), session) := by
  unfold resolve
  simp only [bind_of_ok (get_apply session), hdecision]
  rfl

/-- Only making a project changes more than the store. -/
theorem resolve_session (host : Host σ α) (kinds : SourceKinds) (task : CompileTask)
    (session : Session σ α) :
    ∃ store, (resolve host kinds task session).2 =
      match session.store.decide kinds task.file with
      | .rebuild project seed =>
        { (createProject host task project seed session).2 with store := store }
      | _ => { session with store := store } := by
  cases hdecision : session.store.decide kinds task.file with
  | rebuild project seed =>
      rcases hcreate : createProject host task project seed session with ⟨fault | made, middle⟩
      · refine ⟨middle.store, ?_⟩
        simp only [resolve_of_fault hdecision hcreate, hcreate]
      · refine ⟨(middle.store.insert made).modify project fun found =>
          found.markCompiled task.file, ?_⟩
        simp only [resolve_of_rebuild hdecision hcreate, hcreate]
  | reuse project =>
      unfold resolve
      simp only [bind_of_ok (get_apply session), hdecision]
      exact markCompiled_session session project task.file
  | refuse error =>
      unfold resolve
      simp only [bind_of_ok (get_apply session), hdecision]
      exact ⟨session.store, rfl⟩

/-- Every request is resolved in one of three ways, and none of them loses a project. -/
theorem resolved_resolve (host : Host σ α) (kinds : SourceKinds) (task : CompileTask)
    {before : Session σ α} (hkeyed : before.store.Keyed) :
    Resolved host kinds task before (resolve host kinds task before).1
      (resolve host kinds task before).2 := by
  have hdecided := before.store.decides_decide kinds task.file
  cases hdecision : before.store.decide kinds task.file with
  | rebuild project seed =>
      rw [hdecision] at hdecided
      have hextends := (respects_extends host task project seed).createProject before
      rcases hcreate : createProject host task project seed before with ⟨fault | made, middle⟩
      all_goals rw [hcreate] at hextends
      · rw [resolve_of_fault hdecision hcreate]
        exact .failed hextends
      · have hmade := createProject_eq_ok hcreate
        rw [resolve_of_rebuild hdecision hcreate]
        refine .rebuilt hdecided (hmade.restore _) ?_ hextends.plugins
        rw [← hmade.projectFile, ← hextends.store]
        exact middle.store.publishes_insert made task.file
  | reuse project =>
      rw [hdecision] at hdecided
      cases hdecided with
      | reuse howner hsource hfresh =>
          obtain ⟨-, key, hfound⟩ := Store.findOwner_eq_some howner
          have hstored := hkeyed.get?_projectFile hfound
          rw [resolve_of_reuse hdecision hstored]
          exact .reused howner hstored hsource hfresh
            (Store.publishes_modify hstored task.file) rfl
  | refuse error =>
      unfold resolve
      simp only [bind_of_ok (get_apply before), hdecision]
      exact .failed (.refl before)

end Work

end CompileServer
