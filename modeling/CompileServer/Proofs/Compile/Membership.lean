import CompileServer.Proofs.Compile.Docket

/-!
# Membership

Which source files are served is decided by what the build tool listed: a source file is
refused when no project in the store lists it, and then the error names them all.  Signatures
and files of no kind are refused whoever lists them, and the files that projects are made of
are never refused.
-/

namespace CompileServer

variable {σ α : Type}

namespace CompileError

/-- The error says that the file of a request cannot be compiled. -/
def isAboutFile : CompileError → Bool
  | .notInProject _ _ => true
  | .signatureFile _ => true
  | .unsupportedFile _ => true
  | _ => false

theorem infix_append_left {part left : String} (hpart : part.toList <:+: left.toList)
    (right : String) : part.toList <:+: (left ++ right).toList := by
  rw [String.toList_append]
  exact hpart.trans (List.prefix_append _ _).isInfix

theorem infix_append_right {part right : String} (left : String)
    (hpart : part.toList <:+: right.toList) : part.toList <:+: (left ++ right).toList := by
  rw [String.toList_append]
  exact hpart.trans (List.suffix_append _ _).isInfix

theorem infix_intercalate (separator : String) {part : String} {parts : List String}
    (hpart : part ∈ parts) : part.toList <:+: (separator.intercalate parts).toList := by
  induction parts with
  | nil => cases hpart
  | cons first rest ih =>
      by_cases hrest : rest = []
      · subst hrest
        have halone : separator.intercalate [first] = part := by
          rw [String.intercalate_singleton, List.mem_singleton.1 hpart]
        exact halone ▸ List.infix_rfl
      · rw [String.intercalate_cons_of_ne_nil hrest]
        rcases List.mem_cons.1 hpart with rfl | hmem
        · exact infix_append_left (infix_append_left List.infix_rfl _) _
        · exact infix_append_right _ (ih hmem)

/-- The message of a refusal spells the file and every project. -/
theorem infix_message_notInProject {file : Path} {projects : List Path} {path : Path}
    (hpath : path ∈ file :: projects) :
    path.text.toList <:+: (notInProject file projects).message.toList := by
  rcases List.mem_cons.1 hpath with rfl | hproject
  · exact infix_append_left (infix_append_left List.infix_rfl _) _
  · have hsome : projects.isEmpty = false := by
      cases projects with
      | nil => cases hproject
      | cons => rfl
    apply infix_append_right
    rw [listProjects, hsome, if_neg Bool.false_ne_true]
    exact infix_intercalate ", " (List.mem_map_of_mem hproject)

end CompileError

/-- These are the files of all projects, each once and in order. -/
structure Store.Names (store : Store α) (projects : List Path) : Prop where
  ordered : projects.Pairwise fun earlier later => Path.order earlier later = .lt
  files : List.Forall₂ (fun file project => file ≈ project.projectFile) projects store.projects

theorem Store.Keyed.names {store : Store α} (hkeyed : store.Keyed) :
    store.Names store.projectFiles where
  ordered := List.pairwise_map.2 store.ordered
  files := by
    unfold projectFiles projects
    rw [List.forall₂_map_left_iff, List.forall₂_map_right_iff, List.forall₂_same]
    intro entry hentry
    exact hkeyed entry.1 entry.2 (lookup_of_mem store.ordered hentry)

namespace Work

variable {host : Host σ α} {kinds : SourceKinds} {task : CompileTask} {payload : Json}

/-- A request that is received fails as its file is resolved, or not at all. -/
theorem prepare_eq_error_iff {before received : Session σ α} {fault : Fault}
    (hreceive : receive host payload before = (.ok task, received)) :
    (prepare host kinds payload before).1 = .error fault ↔
      (resolve host kinds task received).1 = .error fault := by
  rw [prepare_eq_receive, bind_of_ok hreceive]
  rcases hresolve : resolve host kinds task received with ⟨other | project, after⟩
  · rw [bind_of_error hresolve]
    constructor <;> intro hfault <;> cases hfault <;> rfl
  · rw [bind_of_ok hresolve]
    constructor <;> intro hfault <;> cases hfault

/-- Only libraries are asked for when a request is refused. -/
theorem heard_of_refuse {session : Session σ α} {error : CompileError}
    (hreceive : (receive host payload session).1 = .ok task)
    (hdecision : session.store.decide kinds task.file = .refuse error) :
    ∃ loads : List Load,
      heard (prepare host.overheard kinds payload) session = loads.map Load.exchange := by
  obtain ⟨loads, hloads⟩ := receive_overheard host payload session.overhear
  have hplain : receive host payload session = _ :=
    through_receive host.through_overheard payload session.overhear
  rw [hplain] at hreceive
  rcases hoverheard : receive host.overheard payload session.overhear with ⟨outcome, received⟩
  rw [hoverheard] at hreceive hloads
  cases hreceive
  obtain ⟨hstore, -⟩ := receive_eq_ok hoverheard
  have hrefused : resolve host.overheard kinds task received =
      (.error (.rejected error), received) :=
    resolve_of_refuse (by rw [hstore]; exact hdecision)
  refine ⟨loads, ?_⟩
  unfold heard
  rw [prepare_eq_receive, bind_of_ok hoverheard, bind_of_error hrefused]
  exact hloads

end Work

namespace Docket

/-- What becomes of a request that is received with a task, as far as its file decides it. -/
structure Judges (host : Host σ α) (kinds : SourceKinds) (normalize : Path → Path)
    (docket : Docket σ α) (letter : Letter σ) (task : CompileTask) : Prop where
  file : ∃ request, Json.decode CompileRequest.decoder letter.payload = .ok request ∧
    task.file = normalize request.path
  /-- A source file is refused if no stored project lists it. -/
  source : kinds.classify task.file = .source →
    ((∃ path projects, (docket.next host kinds letter).outcome =
        .error (.rejected (.notInProject path projects))) ↔
      ∀ key, (docket.session.store.get? key).isSome = true →
        ∀ listed ∈ docket.listed key, ¬ task.file ≈ normalize listed)
  /-- The refusal names the file and all projects, and its message spells them. -/
  refused : ∀ path projects, (docket.next host kinds letter).outcome =
      .error (.rejected (.notInProject path projects)) →
    path = task.file ∧ docket.session.store.Names projects ∧
      ∀ named ∈ path :: projects,
        named.text.toList <:+: (CompileError.notInProject path projects).message.toList
  signature : kinds.classify task.file = .signature →
    (docket.next host kinds letter).outcome = .error (.rejected (.signatureFile task.file)) ∧
      ∃ loads : List Load, (docket.next host kinds letter).said = loads.map Load.exchange
  other : kinds.classify task.file = .other →
    (docket.next host kinds letter).outcome = .error (.rejected (.unsupportedFile task.file)) ∧
      ∃ loads : List Load, (docket.next host kinds letter).said = loads.map Load.exchange
  /-- The files that projects are made of are not refused. -/
  own : kinds.classify task.file = .project ∨ kinds.classify task.file = .script →
    ∀ error, (docket.next host kinds letter).outcome = .error (.rejected error) →
      error.isAboutFile = false

/-- What decides which files are served. -/
structure MembershipLaw (host : Host σ α) (kinds : SourceKinds) (normalize : Path → Path)
    (docket : Docket σ α) : Prop where
  /-- The files of a project are those listed for the last request for the project. -/
  members : ∀ key project, docket.session.store.get? key = some project → ∀ file,
    project.contains file = true ↔ ∃ listed ∈ docket.listed key, file ≈ normalize listed
  judged : ∀ letter task, (Work.receive host letter.payload (docket.opened letter)).1 = .ok task →
    docket.Judges host kinds normalize letter task
  /-- A request that fails changes neither the store nor what counts as listed. -/
  failed : ∀ letter fault, (docket.next host kinds letter).outcome = .error fault →
    (docket.serve host kinds letter).session.store = docket.session.store ∧
      ∀ key, (docket.serve host kinds letter).listed key = docket.listed key

variable {host : Host σ α} {kinds : SourceKinds} {normalize : Path → Path}
  {docket : Docket σ α} {letter : Letter σ} {task : CompileTask}

theorem Lawful.contains_iff (hlawful : docket.Lawful kinds normalize) {key : Path}
    {project : Project α} (hstored : docket.session.store.get? key = some project)
    (file : Path) :
    project.contains file = true ↔ ∃ listed ∈ docket.listed key, file ≈ normalize listed := by
  simp only [Project.contains_eq, Path.isIn_iff, hlawful.members key project hstored,
    List.mem_map, exists_exists_and_eq_and]

/-- A file has no owner if no stored project lists it. -/
theorem Lawful.findOwner_eq_none_iff (hlawful : docket.Lawful kinds normalize) (file : Path) :
    docket.session.store.findOwner file = none ↔
      ∀ key, (docket.session.store.get? key).isSome = true →
        ∀ listed ∈ docket.listed key, ¬ file ≈ normalize listed := by
  rw [Store.findOwner_eq_none_iff]
  constructor
  · intro habsent key hstored listed hlisted hsame
    obtain ⟨project, hproject⟩ := Option.isSome_iff_exists.1 hstored
    exact habsent key project hproject
      ((hlawful.contains_iff hproject file).2 ⟨listed, hlisted, hsame⟩)
  · intro hunlisted key project hstored hcontains
    obtain ⟨listed, hlisted, hsame⟩ := (hlawful.contains_iff hstored file).1 hcontains
    exact hunlisted key (by rw [hstored]; rfl) listed hlisted hsame

/-- If a request that is received fails, then for a reason of its file, or a collaborator
failed while its project was made. -/
theorem fault_next (hkeyed : docket.session.store.Keyed)
    (hreceive : (Work.receive host letter.payload (docket.opened letter)).1 = .ok task)
    {fault : Fault} (hfault : (docket.next host kinds letter).outcome = .error fault) :
    fault.OfMaking ∨ ∃ error, docket.session.store.decide kinds task.file = .refuse error ∧
      fault = .rejected error := by
  rcases hreceived : Work.receive host letter.payload (docket.opened letter) with ⟨_, received⟩
  rw [hreceived] at hreceive
  cases hreceive
  obtain ⟨hstore, -⟩ := Work.receive_eq_ok hreceived
  have hopened : (docket.opened letter).store = docket.session.store := rfl
  have hreceivedKeyed : received.store.Keyed := by
    rw [hstore]
    exact hkeyed
  have hcases := Work.resolve_eq_error hreceivedKeyed ((Work.prepare_eq_error_iff hreceived).1 hfault)
  rwa [hstore, hopened] at hcases

/-- A request is refused if that is the decision about its file. -/
theorem next_of_refuse
    (hreceive : (Work.receive host letter.payload (docket.opened letter)).1 = .ok task)
    {error : CompileError}
    (hdecision : docket.session.store.decide kinds task.file = .refuse error) :
    (docket.next host kinds letter).outcome = .error (.rejected error) ∧
      ∃ loads : List Load, (docket.next host kinds letter).said = loads.map Load.exchange := by
  constructor
  · rcases hreceived : Work.receive host letter.payload (docket.opened letter) with
      ⟨_, received⟩
    rw [hreceived] at hreceive
    cases hreceive
    obtain ⟨hstore, -⟩ := Work.receive_eq_ok hreceived
    apply (Work.prepare_eq_error_iff hreceived).2
    rw [Work.resolve_of_refuse]
    rw [hstore]
    exact hdecision
  · exact Work.heard_of_refuse hreceive hdecision

/-- A file without an owner is the only reason to say that a file belongs to no project. -/
theorem notInProject_next (hkeyed : docket.session.store.Keyed)
    (hreceive : (Work.receive host letter.payload (docket.opened letter)).1 = .ok task)
    {path : Path} {projects : List Path}
    (hfault : (docket.next host kinds letter).outcome =
      .error (.rejected (.notInProject path projects))) :
    docket.session.store.findOwner task.file = none ∧ path = task.file ∧
      projects = docket.session.store.projectFiles := by
  rcases fault_next hkeyed hreceive hfault with hmaking | ⟨error, hdecision, herror⟩
  · cases hmaking
  · cases herror
    have hdecided := docket.session.store.decides_decide kinds task.file
    rw [hdecision] at hdecided
    cases hdecided with
    | foreign _ howner => exact ⟨howner, rfl, rfl⟩

theorem Lawful.own_next (hlawful : docket.Lawful kinds normalize)
    (hreceive : (Work.receive host letter.payload (docket.opened letter)).1 = .ok task)
    (hkind : kinds.classify task.file = .project ∨ kinds.classify task.file = .script)
    {error : CompileError}
    (hfault : (docket.next host kinds letter).outcome = .error (.rejected error)) :
    error.isAboutFile = false := by
  rcases fault_next hlawful.keyed hreceive hfault with hmaking | ⟨other, hdecision, herror⟩
  · cases hmaking <;> rfl
  · have hdecided := docket.session.store.decides_decide kinds task.file
    rw [hdecision] at hdecided
    cases hdecided with
    | foreign hother | signature hother | other hother =>
        rw [hother] at hkind
        rcases hkind with hkind | hkind <;> cases hkind

/-- What one request is told in a lawful state. -/
theorem Lawful.judges (hlawful : docket.Lawful kinds normalize)
    (hnormalize : ∀ world, host.normalize world = normalize)
    (hreceive : (Work.receive host letter.payload (docket.opened letter)).1 = .ok task) :
    docket.Judges host kinds normalize letter task where
  file := by
    rcases hreceived : Work.receive host letter.payload (docket.opened letter) with
      ⟨_, received⟩
    rw [hreceived] at hreceive
    cases hreceive
    obtain ⟨-, -, request, hdecode, hfile⟩ := Work.receive_eq_ok hreceived
    rw [hnormalize] at hfile
    exact ⟨request, hdecode, hfile⟩
  source := by
    intro hsource
    rw [← hlawful.findOwner_eq_none_iff]
    constructor
    · rintro ⟨path, projects, hfault⟩
      exact (notInProject_next hlawful.keyed hreceive hfault).1
    · intro hnone
      refine ⟨task.file, docket.session.store.projectFiles, (next_of_refuse hreceive ?_).1⟩
      simp only [Store.decide, hsource, hnone]
  refused := by
    intro path projects hfault
    obtain ⟨-, rfl, rfl⟩ := notInProject_next hlawful.keyed hreceive hfault
    exact ⟨rfl, hlawful.keyed.names, fun named hnamed =>
      CompileError.infix_message_notInProject hnamed⟩
  signature := by
    intro hkind
    apply next_of_refuse hreceive
    simp only [Store.decide, hkind]
  other := by
    intro hkind
    apply next_of_refuse hreceive
    simp only [Store.decide, hkind]
  own := fun hkind _ hfault => hlawful.own_next hreceive hkind hfault

theorem membershipLaw_run (host : Host σ α) (kinds : SourceKinds)
    (hnormalize : ∀ world, host.normalize world = normalize) (world : σ)
    (letters : List (Letter σ)) :
    (run host kinds world letters).MembershipLaw host kinds normalize := by
  have hlawful := lawful_run host kinds hnormalize world letters
  constructor
  · intro key project hstored file
    exact hlawful.contains_iff hstored file
  · intro letter task hreceive
    exact hlawful.judges hnormalize hreceive
  · intro letter fault hfault
    exact ⟨next_eq_error hlawful.keyed hfault, listed_add_of_error hfault⟩

end Docket

end CompileServer
