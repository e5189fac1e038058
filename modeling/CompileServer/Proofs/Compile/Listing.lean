import CompileServer.Proofs.Compile.Lineage
import CompileServer.Proofs.Compile.Membership
import CompileServer.Proofs.FileSystem.NormalForms

/-!
# Listed files in a world that changes

The files of a project are normalised once, in the world in which the build tool lists them, and
the file of a request is normalised in the world that the request finds.  If files appear and go in
between, then one path may have two normal forms.  A listed file is refused exactly if this
happens; files whose paths meet no link are served whether they are there or not.
-/

namespace CompileServer

variable {σ α : Type} {host : Host σ α} {kinds : SourceKinds}

/-! ## What was listed -/

/-- The build tool lists files for the file of a task and leaves another world behind. -/
def CompileTask.Lists (host : Host σ α) (task : CompileTask) (world : σ) (files : List Path)
    (later : σ) : Prop :=
  ∃ derived, host.deriveOptions task.defines task.file world = (.ok (.ok derived), later) ∧
    derived.sourceFiles = files

/-- Options that were derived have the files that were listed, normalised right afterwards. -/
theorem CompileTask.Derives.lists {task : CompileTask} {world later : σ}
    {options : ProjectOptions} (hderives : task.Derives host world options later) :
    ∃ files, task.Lists host world files later ∧
      options.sourceFiles = files.map (host.normalize later) := by
  obtain ⟨derived, hderived, rfl⟩ := hderives
  exact ⟨derived.sourceFiles, ⟨derived, hderived, rfl⟩, rfl⟩

/-- The request made the project of its own file, and the build tool listed the files for it. -/
def Filed.Lists (host : Host σ α) (filed : Filed σ α) (files : List Path) (later : σ) : Prop :=
  ∃ job received, filed.outcome = .ok job ∧ job.task.file ≈ job.project.projectFile ∧
    Work.receive host filed.payload filed.before = (.ok job.task, received) ∧
    job.task.Lists host received.world files later

/-- What was listed for a request was listed once. -/
theorem Filed.Lists.unique {filed : Filed σ α} {files others : List Path} {later other : σ}
    (hfiles : filed.Lists host files later) (hothers : filed.Lists host others other) :
    files = others ∧ later = other := by
  obtain ⟨job, received, hjob, -, hreceive, derived, hderived, rfl⟩ := hfiles
  obtain ⟨otherJob, otherReceived, hother, -, hreceiveToo, derivedToo, hderivedToo, rfl⟩ := hothers
  cases hjob.symm.trans hother
  cases hreceive.symm.trans hreceiveToo
  cases hderived.symm.trans hderivedToo
  exact ⟨rfl, rfl⟩

/-- The request names the path, spelled like this. -/
def Letter.AsksFor (letter : Letter σ) (path : Path) : Prop :=
  ∃ request, Json.decode CompileRequest.decoder letter.payload = .ok request ∧
    request.path = path

namespace Docket

/-- The build tool listed the files when the project under a key was last made for its own file,
and it left this world behind. -/
def Lists (host : Host σ α) (docket : Docket σ α) (key : Path) (files : List Path) (later : σ) :
    Prop :=
  ∃ filed, docket.lastFor? key = some filed ∧ filed.Lists host files later

/-- Some project lists the path, and its files were normalised in this world. -/
def ListedIn (host : Host σ α) (docket : Docket σ α) (path : Path) (world : σ) : Prop :=
  ∃ key files, docket.Lists host key files world ∧ path ∈ files

variable {docket : Docket σ α} {letter : Letter σ} {key : Path}

/-! ## What a request does to a project -/

/-- A request that becomes a job was received, and then its project was obtained. -/
theorem obtained_next (hkeyed : docket.session.store.Keyed) {job : Job α}
    (hok : (docket.next host kinds letter).outcome = .ok job) :
    ∃ received, Work.receive host letter.payload (docket.opened letter) = (.ok job.task, received) ∧
      received.store = docket.session.store ∧
      Obtained host kinds job.task received job.project := by
  have hprepare : Work.prepare host kinds letter.payload (docket.opened letter) =
      (.ok job, (docket.next host kinds letter).after) := Prod.ext hok rfl
  rw [Work.prepare_eq_receive] at hprepare
  obtain ⟨task, received, hreceive, hprepare⟩ := Work.bind_eq_ok hprepare
  obtain ⟨project, after, hresolve, hprepare⟩ := Work.bind_eq_ok hprepare
  cases hprepare
  have hstore : received.store = docket.session.store := (Work.receive_eq_ok hreceive).1
  exact ⟨received, hreceive, hstore, Work.obtained_of_resolve (hstore ▸ hkeyed) hresolve⟩

/-- A request that made the project of its own file had the files listed. -/
theorem lists_next {job : Job α} {received : Session σ α}
    (hok : (docket.next host kinds letter).outcome = .ok job)
    (hreceive : Work.receive host letter.payload (docket.opened letter) = (.ok job.task, received))
    (hfile : job.project.projectFile = job.task.file)
    (hoptions : ∃ later, job.task.Derives host received.world job.project.options later) :
    ∃ files later, (docket.next host kinds letter).Lists host files later ∧
      job.project.sourceFiles = files.map (host.normalize later) := by
  obtain ⟨later, hderives⟩ := hoptions
  obtain ⟨files, hlists, hfiles⟩ := hderives.lists
  exact ⟨files, later, ⟨job, received, hok, hfile ▸ Setoid.refl _, hreceive, hlists⟩, hfiles⟩

theorem lastFor?_serve_of_ok {job : Job α}
    (hok : (docket.next host kinds letter).outcome = .ok job) (key : Path) :
    (docket.serve host kinds letter).lastFor? key =
      if job.task.file ≈ key then some (docket.next host kinds letter)
      else docket.lastFor? key := by
  rw [serve, lastFor?_add, Filed.isFor, hok]
  simp only [decide_eq_true_eq]

theorem lastFor?_serve_of_error {fault : Fault}
    (hfault : (docket.next host kinds letter).outcome = .error fault) (key : Path) :
    (docket.serve host kinds letter).lastFor? key = docket.lastFor? key := by
  rw [serve, lastFor?_add, Filed.isFor, hfault, if_neg Bool.false_ne_true]

/-- All that a request can do to the project under a key and to what is listed for it. -/
inductive Touches (host : Host σ α) (kinds : SourceKinds) (docket : Docket σ α)
    (letter : Letter σ) (key : Path) : Prop where
  /-- The project is made, of files that are listed now. -/
  | made {project : Project α} {files : List Path} {later : σ}
      (hlast : (docket.serve host kinds letter).lastFor? key =
        some (docket.next host kinds letter))
      (hlists : (docket.next host kinds letter).Lists host files later)
      (hstored : (docket.serve host kinds letter).session.store.get? key = some project)
      (hfiles : project.sourceFiles = files.map (host.normalize later)) :
      Touches host kinds docket letter key
  /-- The project keeps its files. -/
  | kept (hlast : (docket.serve host kinds letter).lastFor? key = docket.lastFor? key)
      (hfiles : ((docket.serve host kinds letter).session.store.get? key).map
          Project.sourceFiles =
        (docket.session.store.get? key).map Project.sourceFiles) :
      Touches host kinds docket letter key
  /-- The file of the request, under whose key there is no project, belongs to another one. -/
  | foreign
      (hlast : (docket.serve host kinds letter).lastFor? key =
        some (docket.next host kinds letter))
      (hunlisted : ∀ files later, ¬ (docket.next host kinds letter).Lists host files later)
      (habsent : (docket.serve host kinds letter).session.store.get? key = none) :
      Touches host kinds docket letter key

theorem touches_of_job (hkeyed : docket.session.store.Keyed)
    (hproper : docket.session.store.Proper kinds) {job : Job α}
    (hok : (docket.next host kinds letter).outcome = .ok job) (key : Path) :
    docket.Touches host kinds letter key := by
  obtain ⟨received, hreceive, hstore, hobtained⟩ := obtained_next hkeyed hok
  have hpublished : (docket.serve host kinds letter).session.store.get? key =
      if key ≈ job.project.projectFile then some job.project
      else docket.session.store.get? key := publishes_next hkeyed hok key
  have hlast := lastFor?_serve_of_ok hok key
  cases hobtained with
  | own hkind hfile hoptions =>
      rw [hfile] at hpublished
      by_cases hkey : key ≈ job.task.file
      · rw [if_pos (Setoid.symm hkey)] at hlast
        rw [if_pos hkey] at hpublished
        obtain ⟨files, later, hlists, hfiles⟩ := lists_next hok hreceive hfile hoptions
        exact .made hlast hlists hpublished hfiles
      · rw [if_neg fun hsame => hkey (Setoid.symm hsame)] at hlast
        rw [if_neg hkey] at hpublished
        exact .kept hlast (congrArg _ hpublished)
  | @member owner howner hkind hkept =>
      rw [hstore] at howner hkind
      obtain ⟨-, ownKey, hfound⟩ := Store.findOwner_eq_some howner
      have hstored : docket.session.store.get? job.project.projectFile = some owner := by
        rw [hkept.projectFile]
        exact hkeyed.get?_projectFile hfound
      have hother : ∀ {known project}, docket.session.store.get? known = some project →
          ¬ job.task.file ≈ known := fun hknown => hproper.not_key hkeyed hkind hknown
      by_cases hkey : job.task.file ≈ key
      · rw [if_pos hkey] at hlast
        refine .foreign hlast ?_ ?_
        · rintro files later ⟨same, -, hsame, hown, -⟩
          cases hok.symm.trans hsame
          exact hother hstored hown
        · have habsent : docket.session.store.get? key = none := by
            by_contra hthere
            obtain ⟨project, hproject⟩ := Option.ne_none_iff_exists'.1 hthere
            exact hother hproject hkey
          rw [hpublished, if_neg, habsent]
          intro hsame
          rw [Store.get?_congr _ hsame, hstored] at habsent
          cases habsent
      · rw [if_neg hkey] at hlast
        refine .kept hlast ?_
        rw [hpublished]
        split
        · rename_i hsame
          rw [Store.get?_congr _ hsame, hstored, Option.map_some, Option.map_some,
            Project.sourceFiles, hkept.options, Project.sourceFiles]
        · rfl

theorem touches_next (hkeyed : docket.session.store.Keyed)
    (hproper : docket.session.store.Proper kinds) (letter : Letter σ) (key : Path) :
    docket.Touches host kinds letter key := by
  cases houtcome : (docket.next host kinds letter).outcome with
  | ok job => exact touches_of_job hkeyed hproper houtcome key
  | error fault =>
      have hstore : (docket.serve host kinds letter).session.store = docket.session.store :=
        next_eq_error hkeyed houtcome
      exact .kept (lastFor?_serve_of_error houtcome key) (by rw [hstore])

/-! ## Runs -/

/-- The store is in order, and its projects have the files that were listed for them, each
normalised in the world in which it was listed. -/
structure Listed (host : Host σ α) (kinds : SourceKinds) (docket : Docket σ α) : Prop where
  keyed : docket.session.store.Keyed
  proper : docket.session.store.Proper kinds
  listed : ∀ key project, docket.session.store.get? key = some project →
    ∃ files later, docket.Lists host key files later
  files : ∀ key files later, docket.Lists host key files later →
    ∃ project, docket.session.store.get? key = some project ∧
      project.sourceFiles = files.map (host.normalize later)

theorem listed_start (host : Host σ α) (kinds : SourceKinds) (world : σ) :
    (start world : Docket σ α).Listed host kinds where
  keyed := .empty
  proper := .empty kinds
  listed _ _ hstored := by cases hstored
  files _ _ _ hlists := by
    obtain ⟨_, hlast, _⟩ := hlists
    cases hlast

/-- What one request preserves. -/
theorem Listed.serve (hlisted : docket.Listed host kinds) (letter : Letter σ) :
    (docket.serve host kinds letter).Listed host kinds where
  keyed := keyed_serve host kinds hlisted.keyed letter
  proper := proper_serve host hlisted.keyed hlisted.proper letter
  listed := by
    intro key project hstored
    cases touches_next hlisted.keyed hlisted.proper letter key with
    | made hlast hlists => exact ⟨_, _, _, hlast, hlists⟩
    | kept hlast hfiles =>
        rw [hstored] at hfiles
        obtain ⟨before, hbefore, -⟩ := Option.map_eq_some_iff.1 hfiles.symm
        obtain ⟨files, later, hlists⟩ := hlisted.listed key before hbefore
        exact ⟨files, later, by rwa [Lists, hlast]⟩
    | foreign _ _ habsent =>
        rw [hstored] at habsent
        cases habsent
  files := by
    rintro key files later ⟨filed, hfiled, hlists⟩
    cases touches_next hlisted.keyed hlisted.proper letter key with
    | made hlast hmade hstored hfiles =>
        cases hlast.symm.trans hfiled
        obtain ⟨rfl, rfl⟩ := hmade.unique hlists
        exact ⟨_, hstored, hfiles⟩
    | kept hlast hfiles =>
        rw [hlast] at hfiled
        obtain ⟨before, hbefore, hlisted⟩ := hlisted.files key files later ⟨filed, hfiled, hlists⟩
        rw [hbefore] at hfiles
        obtain ⟨project, hstored, hsame⟩ := Option.map_eq_some_iff.1 hfiles
        exact ⟨project, hstored, hsame.trans hlisted⟩
    | foreign hlast hunlisted =>
        cases hlast.symm.trans hfiled
        exact absurd hlists (hunlisted files later)

/-- What a run preserves. -/
theorem listed_foldl (hlisted : docket.Listed host kinds) (letters : List (Letter σ)) :
    (letters.foldl (Docket.serve host kinds) docket).Listed host kinds := by
  induction letters generalizing docket with
  | nil => exact hlisted
  | cons letter rest ih => exact ih (hlisted.serve letter)

/-- The files of a project are the normal forms of those that are listed. -/
theorem Listed.contains_iff (hlisted : docket.Listed host kinds) {files : List Path} {world : σ}
    (hlists : docket.Lists host key files world) {project : Project α}
    (hstored : docket.session.store.get? key = some project) (file : Path) :
    project.contains file = true ↔ ∃ path ∈ files, file ≈ host.normalize world path := by
  obtain ⟨known, hknown, hfiles⟩ := hlisted.files key files world hlists
  cases hstored.symm.trans hknown
  simp only [Project.contains_eq, Path.isIn_iff, hfiles, List.mem_map, exists_exists_and_eq_and]

/-- A file has no owner if its path is the normal form of no path that is listed. -/
theorem Listed.findOwner_eq_none_iff (hlisted : docket.Listed host kinds) (file : Path) :
    docket.session.store.findOwner file = none ↔
      ∀ path world, docket.ListedIn host path world → ¬ file ≈ host.normalize world path := by
  rw [Store.findOwner_eq_none_iff]
  constructor
  · rintro habsent path world ⟨key, files, hlists, hpath⟩ hsame
    obtain ⟨project, hstored, -⟩ := hlisted.files key files world hlists
    exact habsent key project hstored
      ((hlisted.contains_iff hlists hstored file).2 ⟨path, hpath, hsame⟩)
  · intro hunlisted key project hstored hcontains
    obtain ⟨files, world, hlists⟩ := hlisted.listed key project hstored
    obtain ⟨path, hpath, hsame⟩ := (hlisted.contains_iff hlists hstored file).1 hcontains
    exact hunlisted path world ⟨key, files, hlists, hpath⟩ hsame

/-! ## Which listed files are served -/

/-- The request is refused because its file belongs to no project. -/
def Refuses (host : Host σ α) (kinds : SourceKinds) (docket : Docket σ α) (letter : Letter σ) :
    Prop :=
  ∃ path projects, (docket.next host kinds letter).outcome =
    .error (.rejected (.notInProject path projects))

/-- No source file is refused under the absolute path under which a project lists it. -/
def ServesListed (host : Host σ α) (kinds : SourceKinds) (docket : Docket σ α) : Prop :=
  ∀ path world letter, docket.ListedIn host path world → path.isAbsolute = true →
    kinds.classify path = .source → letter.AsksFor path → ¬ docket.Refuses host kinds letter

/-- What decides whether a listed file is served; `disk` gives the files of a world. -/
structure ListingLaw (host : Host σ α) (kinds : SourceKinds) (disk : σ → FileSystem)
    (docket : Docket σ α) : Prop where
  /-- The projects are those for which files were listed. -/
  projects : ∀ key, (docket.session.store.get? key).isSome = true ↔
    ∃ files later, docket.Lists host key files later
  /-- The files of a project are the normal forms of those that are listed for it, as they were
  when it was made for its own file. -/
  members : ∀ key files world project, docket.Lists host key files world →
    docket.session.store.get? key = some project → ∀ file,
    project.contains file = true ↔ ∃ path ∈ files, file ≈ host.normalize world path
  /-- A request for a manifest that becomes a job has the files of the manifest listed. -/
  made : ∀ letter job, (docket.next host kinds letter).outcome = .ok job →
    kinds.classify job.task.file = .project →
    ∃ files later, (docket.next host kinds letter).Lists host files later ∧
      (docket.serve host kinds letter).Lists host job.task.file files later
  /-- What is listed for a project stays until a request for its own file becomes a job. -/
  stays : ∀ key files later letter, docket.Lists host key files later →
    (∀ job, (docket.next host kinds letter).outcome = .ok job → ¬ job.task.file ≈ key) →
    (docket.serve host kinds letter).Lists host key files later
  /-- A source file is refused exactly if its normal form is that of no path that is listed, each
  taken in its own world. -/
  refused : ∀ letter task, (Work.receive host letter.payload (docket.opened letter)).1 = .ok task →
    kinds.classify task.file = .source →
    (docket.Refuses host kinds letter ↔
      ∀ path world, docket.ListedIn host path world → ¬ task.file ≈ host.normalize world path)
  /-- A listed path that kept its normal form is not refused. -/
  served : ∀ path world letter, docket.ListedIn host path world → letter.AsksFor path →
    host.normalize letter.world path ≈ host.normalize world path →
    ¬ docket.Refuses host kinds letter
  /-- An absolute path that leads where it led, or to nothing as before, is not refused. -/
  unmoved : ∀ path world letter, docket.ListedIn host path world → letter.AsksFor path →
    path.isAbsolute = true →
    ((disk letter.world).canonical path).toOption = ((disk world).canonical path).toOption →
    ¬ docket.Refuses host kinds letter
  /-- Files may come and go behind absolute paths that meet neither links nor parent steps. -/
  plain : ∀ path world letter, docket.ListedIn host path world → letter.AsksFor path →
    path.isAbsolute = true → (disk world).KeepsForm path → (disk letter.world).KeepsForm path →
    ¬ docket.Refuses host kinds letter

theorem lists_serve_of_manifest (hkeyed : docket.session.store.Keyed) {job : Job α}
    (hok : (docket.next host kinds letter).outcome = .ok job)
    (hkind : kinds.classify job.task.file = .project) :
    ∃ files later, (docket.next host kinds letter).Lists host files later ∧
      (docket.serve host kinds letter).Lists host job.task.file files later := by
  obtain ⟨received, hreceive, -, hobtained⟩ := obtained_next hkeyed hok
  cases hobtained with
  | own _ hfile hoptions =>
      obtain ⟨files, later, hlists, -⟩ := lists_next hok hreceive hfile hoptions
      refine ⟨files, later, hlists, _, ?_, hlists⟩
      rw [lastFor?_serve_of_ok hok, if_pos (Setoid.refl _)]
  | member _ hother =>
      rw [hkind] at hother
      rcases hother with ⟨hscript, -⟩ | hsource
      · cases hscript
      · cases hsource

theorem lists_serve {files : List Path} {later : σ} (hlists : docket.Lists host key files later)
    (hother : ∀ job, (docket.next host kinds letter).outcome = .ok job → ¬ job.task.file ≈ key) :
    (docket.serve host kinds letter).Lists host key files later := by
  have hlast : (docket.serve host kinds letter).lastFor? key = docket.lastFor? key := by
    cases houtcome : (docket.next host kinds letter).outcome with
    | ok job => rw [lastFor?_serve_of_ok houtcome, if_neg (hother job houtcome)]
    | error fault => exact lastFor?_serve_of_error houtcome key
  rwa [Lists, hlast]

theorem Listed.refuses_iff (hlisted : docket.Listed host kinds) {task : CompileTask}
    (hreceive : (Work.receive host letter.payload (docket.opened letter)).1 = .ok task)
    (hsource : kinds.classify task.file = .source) :
    docket.Refuses host kinds letter ↔
      ∀ path world, docket.ListedIn host path world → ¬ task.file ≈ host.normalize world path := by
  rw [← hlisted.findOwner_eq_none_iff]
  constructor
  · rintro ⟨path, projects, hfault⟩
    exact (notInProject_next hlisted.keyed hreceive hfault).1
  · intro hnone
    refine ⟨task.file, docket.session.store.projectFiles, (next_of_refuse hreceive ?_).1⟩
    simp only [Store.decide, hsource, hnone]

/-- A request that is refused for its file was received. -/
theorem Refuses.received (hrefuses : docket.Refuses host kinds letter) :
    ∃ task, (Work.receive host letter.payload (docket.opened letter)).1 = .ok task := by
  obtain ⟨path, projects, hfault⟩ := hrefuses
  rcases hreceive : Work.receive host letter.payload (docket.opened letter) with
    ⟨fault | task, received⟩
  · have hreceiving := Work.failsBy_receive host letter.payload _ fault (congrArg Prod.fst hreceive)
    simp only [next, Work.prepare_eq_receive, Work.bind_of_error hreceive] at hfault
    cases hfault
    cases hreceiving
  · exact ⟨task, rfl⟩

theorem Listed.not_refuses (hlisted : docket.Listed host kinds) {path : Path} {world : σ}
    (hpath : docket.ListedIn host path world) (hasks : letter.AsksFor path)
    (hsame : host.normalize letter.world path ≈ host.normalize world path) :
    ¬ docket.Refuses host kinds letter := by
  intro hrefuses
  obtain ⟨task, hreceive⟩ := hrefuses.received
  obtain ⟨file, projects, hfault⟩ := hrefuses
  have hforeign := (notInProject_next hlisted.keyed hreceive hfault).1
  rcases hreceived : Work.receive host letter.payload (docket.opened letter) with ⟨_, received⟩
  rw [hreceived] at hreceive
  cases hreceive
  obtain ⟨-, -, request, hdecode, hfile⟩ := Work.receive_eq_ok hreceived
  obtain ⟨asked, hasked, rfl⟩ := hasks
  cases hdecode.symm.trans hasked
  apply (hlisted.findOwner_eq_none_iff task.file).1 hforeign _ world hpath
  rw [hfile]
  exact hsame

/-- Every run of requests keeps to the law if the keys are the normal forms of the files. -/
theorem listingLaw_run (host : Host σ α) (kinds : SourceKinds) {disk : σ → FileSystem}
    (hdisk : ∀ world path, host.normalize world path = (disk world).normalize path) (world : σ)
    (letters : List (Letter σ)) : (run host kinds world letters).ListingLaw host kinds disk := by
  have hlisted : (run host kinds world letters).Listed host kinds :=
    listed_foldl (listed_start host kinds world) letters
  constructor
  · intro key
    rw [Option.isSome_iff_exists]
    constructor
    · rintro ⟨project, hstored⟩
      exact hlisted.listed key project hstored
    · rintro ⟨files, later, hlists⟩
      obtain ⟨project, hstored, -⟩ := hlisted.files key files later hlists
      exact ⟨project, hstored⟩
  · intro key files world project hlists hstored file
    exact hlisted.contains_iff hlists hstored file
  · intro letter job hok hkind
    exact lists_serve_of_manifest hlisted.keyed hok hkind
  · intro key files later letter hlists hother
    exact lists_serve hlists hother
  · intro letter task hreceive hsource
    exact hlisted.refuses_iff hreceive hsource
  · intro path world letter hpath hasks hsame
    exact hlisted.not_refuses hpath hasks hsame
  · intro path world letter hpath hasks habsolute hsame
    apply hlisted.not_refuses hpath hasks
    rw [hdisk, hdisk]
    exact FileSystem.normalize_congr habsolute hsame
  · intro path world letter hpath hasks habsolute hthen hnow
    apply hlisted.not_refuses hpath hasks
    rw [hdisk, hdisk]
    exact Setoid.trans (FileSystem.normalize_equiv habsolute hnow)
      (Setoid.symm (FileSystem.normalize_equiv habsolute hthen))

end Docket

end CompileServer
