import CompileServer.Proofs.Compile.Coherence
import CompileServer.Proofs.Compile.Conversation

/-!
# Dockets of requests

A docket is a run of requests as they come in, with what became of each and what was said
about it.  Between two requests the world may change in any way.  Which files belong to a
project is tied to the past: they are what the build tool listed for the last request for the
file of the project itself that became a job.
-/

namespace CompileServer

/-- A request as it comes in, with the world it finds. -/
structure Letter (σ : Type) where
  payload : Json
  world : σ

/-- A request that was worked on. -/
structure Filed (σ α : Type) where
  payload : Json
  before : Session σ α
  outcome : Except Fault (Job α)
  after : Session σ α
  said : List (Exchange α)

/-- The requests so far, oldest first, and the session they left. -/
structure Docket (σ α : Type) where
  past : List (Filed σ α)
  session : Session σ α

variable {σ α : Type}

/-- The source files that the build tool listed. -/
def Exchange.listed : Exchange α → List Path
  | .deriveOptions _ _ (.ok (.ok options)) => options.sourceFiles
  | _ => []

/-- The request was for a file and became a job. -/
def Filed.isFor (filed : Filed σ α) (key : Path) : Bool :=
  match filed.outcome with
  | .ok job => decide (job.task.file ≈ key)
  | .error _ => false

namespace Docket

def start (world : σ) : Docket σ α :=
  ⟨[], .start world⟩

/-- The session that the next request finds. -/
def opened (docket : Docket σ α) (letter : Letter σ) : Session σ α :=
  { docket.session with world := letter.world }

/-- What comes of the next request. -/
def next (host : Host σ α) (kinds : SourceKinds) (docket : Docket σ α) (letter : Letter σ) :
    Filed σ α :=
  let prepared := Work.prepare host kinds letter.payload (docket.opened letter)
  ⟨letter.payload, docket.opened letter, prepared.1, prepared.2,
    Work.heard (Work.prepare host.overheard kinds letter.payload) (docket.opened letter)⟩

def add (docket : Docket σ α) (filed : Filed σ α) : Docket σ α :=
  ⟨docket.past ++ [filed], filed.after⟩

/-- Works on the next request. -/
def serve (host : Host σ α) (kinds : SourceKinds) (docket : Docket σ α) (letter : Letter σ) :
    Docket σ α :=
  docket.add (docket.next host kinds letter)

/-- The docket of a run. -/
def run (host : Host σ α) (kinds : SourceKinds) (world : σ) (letters : List (Letter σ)) :
    Docket σ α :=
  letters.foldl (serve host kinds) (start world)

theorem run_concat (host : Host σ α) (kinds : SourceKinds) (world : σ)
    (letters : List (Letter σ)) (letter : Letter σ) :
    run host kinds world (letters ++ [letter]) =
      (run host kinds world letters).serve host kinds letter := by
  simp only [run, List.foldl_append, List.foldl_cons, List.foldl_nil]

/-- The last request for a file itself that became a job. -/
def lastFor? (docket : Docket σ α) (key : Path) : Option (Filed σ α) :=
  (docket.past.filter fun filed => filed.isFor key).getLast?

/-- The source files that were listed for that request. -/
def listed (docket : Docket σ α) (key : Path) : List Path :=
  match docket.lastFor? key with
  | some filed => filed.said.flatMap Exchange.listed
  | none => []

/-- The store is in order, and the files of a project are those that were last listed for it,
normalised. -/
structure Lawful (kinds : SourceKinds) (normalize : Path → Path) (docket : Docket σ α) :
    Prop where
  keyed : docket.session.store.Keyed
  proper : docket.session.store.Proper kinds
  members : ∀ key project, docket.session.store.get? key = some project →
    project.sourceFiles = (docket.listed key).map normalize

theorem lawful_start (kinds : SourceKinds) (normalize : Path → Path) (world : σ) :
    (start world : Docket σ α).Lawful kinds normalize where
  keyed := .empty
  proper := .empty kinds
  members _ _ hstored := by cases hstored

theorem lastFor?_add (docket : Docket σ α) (filed : Filed σ α) (key : Path) :
    (docket.add filed).lastFor? key =
      if filed.isFor key then some filed else docket.lastFor? key := by
  by_cases hfor : filed.isFor key = true
  · simp [lastFor?, add, hfor]
  · simp [lastFor?, add, hfor]

theorem listed_add (docket : Docket σ α) (filed : Filed σ α) (key : Path) :
    (docket.add filed).listed key =
      if filed.isFor key then filed.said.flatMap Exchange.listed else docket.listed key := by
  rw [listed, lastFor?_add]
  by_cases hfor : filed.isFor key = true
  · rw [if_pos hfor, if_pos hfor]
  · rw [if_neg hfor, if_neg hfor, listed]

theorem listed_add_of_error {docket : Docket σ α} {filed : Filed σ α} {fault : Fault}
    (hfault : filed.outcome = .error fault) (key : Path) :
    (docket.add filed).listed key = docket.listed key := by
  rw [listed_add, Filed.isFor, hfault, if_neg Bool.false_ne_true]

end Docket

/-! ## Where the files of a project come from -/

theorem Load.listed (loads : List Load) :
    (loads.map (Load.exchange (α := α))).flatMap Exchange.listed = [] := by
  apply List.flatMap_eq_nil_iff.2
  intro exchange hexchange
  obtain ⟨load, -, rfl⟩ := List.mem_map.1 hexchange
  rfl

theorem FolderSaid.listed {project folder : Path} {seed : Seed} {said : List (Exchange α)}
    (hsaid : FolderSaid project seed folder said) : said.flatMap Exchange.listed = [] := by
  cases hsaid <;> rfl

theorem DumpSaid.listed {task : CompileTask} {project : Path} {said : List (Exchange α)}
    {warnings : Log} (hsaid : DumpSaid task project said warnings) :
    said.flatMap Exchange.listed = [] := by
  cases hsaid <;> rfl

/-- Files are listed when the options of a project are derived, and at no other time. -/
theorem MakingSaid.listed {host : Host σ α} {task : CompileTask} {seed : Seed}
    {made : Project α} {said : List (Exchange α)} {logged : Log}
    (hmaking : MakingSaid host task seed made said logged) :
    ∃ derived, OptionsSaid host task made.projectFile seed made.options derived ∧
      said.flatMap Exchange.listed = derived.flatMap Exchange.listed := by
  cases hmaking with
  | course diagnostics hoptions hfolder hdump =>
      refine ⟨_, hoptions, ?_⟩
      simp [hfolder.listed, hdump.listed, Exchange.listed]

section Resolving

variable {host : Host σ α} {kinds : SourceKinds} {normalize : Path → Path} {store : Store α}
  {task : CompileTask} {project : Project α} {said : List (Exchange α)} {logged : Log}

/-- A project that is made for its own file consists of what is listed then. -/
theorem MakingSaid.sourceFiles_of_own (hnormalize : ∀ world, host.normalize world = normalize)
    {known : Option (Project α)}
    (hmaking : MakingSaid host task (.ofKnown known) project said logged) :
    project.sourceFiles = (said.flatMap Exchange.listed).map normalize := by
  obtain ⟨derived, hoptions, hlisted⟩ := hmaking.listed
  rw [hlisted]
  cases hoptions with
  | kept hseed => cases hseed
  | derived hseed hmade =>
      rw [Project.sourceFiles, hmade, hnormalize]
      simp [Exchange.listed]

/-- A project that is checked again keeps its files. -/
theorem MakingSaid.sourceFiles_of_watch {owner : Project α}
    (hmaking : MakingSaid host task (.watch owner) project said logged) :
    project.sourceFiles = owner.sourceFiles := by
  obtain ⟨derived, hoptions, -⟩ := hmaking.listed
  cases hoptions with
  | kept hseed => rw [Project.sourceFiles, ← Option.some.inj hseed, Project.sourceFiles]
  | derived hseed => cases hseed

/-- A project is made of what is listed for its own file, or it keeps the files that it had. -/
theorem ResolvingSaid.sourceFiles (hnormalize : ∀ world, host.normalize world = normalize)
    (hkeyed : store.Keyed) (hproper : store.Proper kinds)
    (hsaid : ResolvingSaid host store task (store.decide kinds task.file) project said logged) :
    (project.projectFile = task.file ∧
      project.sourceFiles = (said.flatMap Exchange.listed).map normalize) ∨
    ∃ owner, store.get? project.projectFile = some owner ∧
      project.sourceFiles = owner.sourceFiles ∧
      ∀ key known, store.get? key = some known → ¬ task.file ≈ key := by
  have hdecided := store.decides_decide kinds task.file
  generalize store.decide kinds task.file = decision at hsaid hdecided
  cases hsaid with
  | @rebuilt seed made _ _ hmaking =>
      rw [made.markCompiled_projectFile, made.markCompiled_sourceFiles]
      generalize hfile : made.projectFile = path at hdecided ⊢
      cases hdecided with
      | own hkind => exact Or.inl ⟨rfl, hmaking.sourceFiles_of_own hnormalize⟩
      | @watch owner howner hkind =>
          obtain ⟨-, key, hstored⟩ := Store.findOwner_eq_some howner
          exact Or.inr ⟨owner, hkeyed.get?_projectFile hstored, hmaking.sourceFiles_of_watch,
            fun _ _ => hproper.not_key hkeyed (hkind.imp_right And.left)⟩
  | @reused path known hstored =>
      cases hdecided with
      | @reuse owner howner hsource =>
          obtain ⟨-, key, hfound⟩ := Store.findOwner_eq_some howner
          have hsame := hkeyed.get?_projectFile hfound
          cases hsame.symm.trans hstored
          rw [known.markCompiled_projectFile, known.markCompiled_sourceFiles]
          exact Or.inr ⟨known, hsame, rfl, fun _ _ => hproper.not_key hkeyed (Or.inr hsource)⟩

end Resolving

/-- However preparing a request ends, it keeps every project proper. -/
theorem Prepared.proper {host : Host σ α} {kinds : SourceKinds} {payload : Json}
    {before after : Session σ α} {outcome : Except Fault (Job α)}
    (hprepared : Prepared host kinds payload before outcome after)
    (hproper : before.store.Proper kinds) : after.store.Proper kinds := by
  cases hprepared with
  | ended hstore _ =>
      rw [hstore]
      exact hproper
  | job _ _ hresolved hstore _ => exact Store.Proper.step (hstore ▸ hproper) hresolved

namespace Docket

variable {host : Host σ α} {kinds : SourceKinds} {normalize : Path → Path}
  {docket : Docket σ α} {letter : Letter σ}

theorem prepared_next (host : Host σ α) (kinds : SourceKinds)
    (hkeyed : docket.session.store.Keyed) (letter : Letter σ) :
    Prepared host kinds letter.payload (docket.opened letter)
      (docket.next host kinds letter).outcome (docket.next host kinds letter).after :=
  Work.prepared_prepare host kinds letter.payload hkeyed

/-- What one request preserves. -/
theorem keyed_serve (host : Host σ α) (kinds : SourceKinds)
    (hkeyed : docket.session.store.Keyed) (letter : Letter σ) :
    (docket.serve host kinds letter).session.store.Keyed :=
  (prepared_next host kinds hkeyed letter).keyed hkeyed

theorem proper_serve (host : Host σ α) (hkeyed : docket.session.store.Keyed)
    (hproper : docket.session.store.Proper kinds) (letter : Letter σ) :
    (docket.serve host kinds letter).session.store.Proper kinds :=
  (prepared_next host kinds hkeyed letter).proper hproper

/-- A request that becomes a job leaves the store with its project. -/
theorem publishes_next (hkeyed : docket.session.store.Keyed) {job : Job α}
    (hok : (docket.next host kinds letter).outcome = .ok job) :
    docket.session.store.Publishes (docket.next host kinds letter).after.store job.project := by
  have hprepared := prepared_next host kinds hkeyed letter
  rw [hok] at hprepared
  generalize (docket.next host kinds letter).after = after at hprepared ⊢
  cases hprepared with
  | job _ _ hresolved hstore _ =>
      have hpublished := hresolved.published
      rw [hstore] at hpublished
      exact hpublished

/-- What was said about a request that becomes a job was said about its project. -/
theorem said_next {job : Job α} (hok : (docket.next host kinds letter).outcome = .ok job) :
    ∃ loads said,
      (docket.next host kinds letter).said = List.map Load.exchange loads ++ said ∧
      ResolvingSaid host docket.session.store job.task
        (docket.session.store.decide kinds job.task.file) job.project said job.log := by
  obtain ⟨loads, said, hsaid, hheard⟩ := Work.preparingSaid_of_ok hok
  exact ⟨loads, said, hheard, hsaid⟩

/-- A request without a job leaves the store as it was. -/
theorem next_eq_error (hkeyed : docket.session.store.Keyed) {fault : Fault}
    (hfault : (docket.next host kinds letter).outcome = .error fault) :
    (docket.next host kinds letter).after.store = docket.session.store := by
  have hprepared := prepared_next host kinds hkeyed letter
  rw [hfault] at hprepared
  exact hprepared.store_of_error

/-- The files listed for a job count from then on for its own file. -/
theorem listed_serve {job : Job α} {loads : List Load} {said : List (Exchange α)}
    (hok : (docket.next host kinds letter).outcome = .ok job)
    (hsaid : (docket.next host kinds letter).said = List.map Load.exchange loads ++ said)
    (key : Path) :
    (docket.serve host kinds letter).listed key =
      if job.task.file ≈ key then said.flatMap Exchange.listed else docket.listed key := by
  rw [serve, listed_add, Filed.isFor, hok, hsaid, List.flatMap_append, Load.listed,
    List.nil_append]
  simp only [decide_eq_true_eq]

/-- The files of every project are those listed for it, also after a request that becomes a
job. -/
theorem Lawful.members_add_job (hlawful : docket.Lawful kinds normalize)
    (hnormalize : ∀ world, host.normalize world = normalize) {job : Job α}
    (hok : (docket.next host kinds letter).outcome = .ok job) {key : Path} {project : Project α}
    (hstored : (docket.serve host kinds letter).session.store.get? key = some project) :
    project.sourceFiles = ((docket.serve host kinds letter).listed key).map normalize := by
  obtain ⟨loads, said, hheard, hsaid⟩ := said_next hok
  have hfound : (docket.serve host kinds letter).session.store.get? key = _ :=
    publishes_next hlawful.keyed hok key
  rw [hfound] at hstored
  rw [listed_serve hok hheard]
  rcases hsaid.sourceFiles hnormalize hlawful.keyed hlawful.proper with
    ⟨hfile, hfiles⟩ | ⟨owner, howner, hfiles, hother⟩
  -- the request is for the project itself, which gets what was listed for it
  · rw [hfile] at hstored
    by_cases hkey : key ≈ job.task.file
    · rw [if_pos hkey] at hstored
      cases hstored
      rw [if_pos (Setoid.symm hkey), hfiles]
    · rw [if_neg hkey] at hstored
      rw [if_neg fun hsame => hkey (Setoid.symm hsame)]
      exact hlawful.members key project hstored
  -- the request is for no project, and the one that serves it keeps its files
  · by_cases hkey : key ≈ job.project.projectFile
    · rw [if_pos hkey] at hstored
      cases hstored
      rw [← Store.get?_congr _ hkey] at howner
      rw [if_neg (hother key owner howner), hfiles]
      exact hlawful.members key owner howner
    · rw [if_neg hkey] at hstored
      rw [if_neg (hother key project hstored)]
      exact hlawful.members key project hstored

/-- What one request preserves. -/
theorem Lawful.serve (hlawful : docket.Lawful kinds normalize)
    (hnormalize : ∀ world, host.normalize world = normalize) (letter : Letter σ) :
    (docket.serve host kinds letter).Lawful kinds normalize where
  keyed := keyed_serve host kinds hlawful.keyed letter
  proper := proper_serve host hlawful.keyed hlawful.proper letter
  members := by
    intro key project hstored
    cases houtcome : (docket.next host kinds letter).outcome with
    | ok job => exact hlawful.members_add_job hnormalize houtcome hstored
    | error fault =>
        have hstore : (docket.serve host kinds letter).session.store = docket.session.store :=
          next_eq_error hlawful.keyed houtcome
        rw [hstore] at hstored
        rw [Docket.serve, listed_add_of_error houtcome]
        exact hlawful.members key project hstored

/-- What a run preserves. -/
theorem lawful_foldl (hlawful : docket.Lawful kinds normalize)
    (hnormalize : ∀ world, host.normalize world = normalize) (letters : List (Letter σ)) :
    (letters.foldl (serve host kinds) docket).Lawful kinds normalize := by
  induction letters generalizing docket with
  | nil => exact hlawful
  | cons letter rest ih => exact ih (hlawful.serve hnormalize letter)

theorem lawful_run (host : Host σ α) (kinds : SourceKinds)
    (hnormalize : ∀ world, host.normalize world = normalize) (world : σ)
    (letters : List (Letter σ)) : (run host kinds world letters).Lawful kinds normalize :=
  lawful_foldl (lawful_start kinds normalize world) hnormalize letters

end Docket

end CompileServer
