import CompileServer.Proofs.Actor.Filing
import CompileServer.Proofs.Compile.Listing

/-!
# The actor among others

Files are written and removed by others while the actor runs.  A run of the actor in a world that
anybody may change at any moment is still a docket of requests, so what decides which listed
files are served in a changing world decides it for the actor.
-/

namespace CompileServer

variable {σ α : Type} {host : Host σ α} {kinds : SourceKinds}

/-- What can happen while an actor runs: an event of its own, or somebody else changes the
world. -/
inductive Occurrence (σ : Type) where
  | event (event : Event)
  | change (world : σ)

namespace History

/-- The history in another world. -/
def inWorld (history : History σ α) (world : σ) : History σ α :=
  { history with
    actor := { history.actor with session := { history.actor.session with world := world } } }

/-- The history after an occurrence, if it is possible. -/
def meet? (host : Host σ α) (kinds : SourceKinds) (history : History σ α) :
    Occurrence σ → Option (History σ α)
  | .event event => history.next? host kinds event
  | .change world => some (history.inWorld world)

/-- The history after some occurrences, if they are possible in this order. -/
def live? (host : Host σ α) (kinds : SourceKinds) (history : History σ α)
    (occurrences : List (Occurrence σ)) : Option (History σ α) :=
  occurrences.foldlM (meet? host kinds) history

/-- What events and changes of the world preserve, every run preserves. -/
theorem live?_preserves {motive : History σ α → Prop}
    (hstep : ∀ {before after event}, motive before → Step host kinds before event after →
      motive after)
    (hchange : ∀ {history} world, motive history → motive (history.inWorld world))
    {occurrences : List (Occurrence σ)} {before after : History σ α} (hbefore : motive before)
    (hlive : before.live? host kinds occurrences = some after) : motive after := by
  induction occurrences generalizing before with
  | nil =>
      cases hlive
      exact hbefore
  | cons occurrence rest ih =>
      rw [live?, List.foldlM_cons] at hlive
      obtain ⟨next, hnext, hrest⟩ := Option.bind_eq_some_iff.1 hlive
      refine ih ?_ hrest
      cases occurrence with
      | event event => exact hstep hbefore (step_of_next? hnext)
      | change world =>
          cases hnext
          exact hchange world hbefore

end History

/-- A change of the world files nothing. -/
theorem Docket.Follows.inWorld {docket : Docket σ α} {history : History σ α}
    (hfollows : docket.Follows host history) (world : σ) :
    docket.Follows host (history.inWorld world) where
  session := by
    have hsession := congrArg (fun session => { session with world := world }) hfollows.session
    exact hsession
  requests := hfollows.requests

namespace History

/-- The requests of a run of the actor in a changing world are a docket. -/
theorem filed_of_live {world : σ} {occurrences : List (Occurrence σ)} {history : History σ α}
    (hlive : (start world).live? host kinds occurrences = some history) :
    ∃ letters, (Docket.run host kinds world letters).Follows host history := by
  apply live?_preserves (motive := fun history =>
    ∃ letters, (Docket.run host kinds world letters).Follows host history) _ _ _ hlive
  · rintro before after event ⟨letters, hfollows⟩ hstep
    rcases hfollows.step hstep with hfollows | ⟨letter, hfollows⟩
    · exact ⟨letters, hfollows⟩
    · exact ⟨letters ++ [letter], by rw [Docket.run_concat]; exact hfollows⟩
  · rintro history world ⟨letters, hfollows⟩
    exact ⟨letters, hfollows.inWorld world⟩
  · exact ⟨[], Docket.follows_start host world⟩

/-- Over every run of requests in a changing world, a listed file is refused exactly if its path
got another normal form, and no path without links does; the runs of the actor among others are
of this kind. -/
theorem listing_throughout (host : Host σ α) (kinds : SourceKinds) (disk : σ → FileSystem)
    (hdisk : ∀ world path, host.normalize world path = (disk world).normalize path) :
    (∀ (world : σ) (letters : List (Letter σ)),
      (Docket.run host kinds world letters).ListingLaw host kinds disk) ∧
      ∀ (world : σ) (occurrences : List (Occurrence σ)) (history : History σ α),
        (start world).live? host kinds occurrences = some history →
        ∃ letters, (Docket.run host kinds world letters).Follows host history := by
  constructor
  · exact Docket.listingLaw_run host kinds hdisk
  · intro world occurrences history hlive
    exact filed_of_live hlive

end History

namespace Sample

/-- A manifest next to a folder and a link to this folder. -/
def workManifest : Path := ⟨"/w/App.fsproj"⟩

/-- A file that is listed through the link. -/
def linkedFile : Path := ⟨"/w/link/Gen.fs"⟩

/-- The same file in its folder. -/
def realFile : Path := ⟨"/w/real/Gen.fs"⟩

/-- A file next to the manifest. -/
def mainFile : Path := ⟨"/w/Main.fs"⟩

/-- The disk before and after the two files are written. -/
def disk (isWritten : Bool) : FileSystem where
  entries := [(["w"], .folder), (["w", "App.fsproj"], .file .empty), (["w", "real"], .folder),
      (["w", "link"], .link "real")] ++
    if isWritten then [(["w", "real", "Gen.fs"], .file .empty), (["w", "Main.fs"], .file .empty)]
    else []
  current := ["w"]

/-- The small host with this disk, and a build tool that lists the two files. -/
def workHost : Host Bool Nat :=
  { answers.host fun _ _ _ => pure (.ok ()) with
    deriveOptions := fun defines project isWritten =>
      (.ok (.ok ⟨project, [linkedFile, mainFile], defines, .null⟩), isWritten)
    normalize := fun isWritten => (disk isWritten).normalize }

/-- A path below the folder of the manifest is followed from this folder. -/
theorem locate_below {path : Path} {rest : List String} (isWritten : Bool)
    (hfault : FileSystem.faultOf? false path = none) (habsolute : path.isAbsolute = true)
    (hnames : FileSystem.namesOf path.text = "" :: "w" :: rest) :
    (disk isWritten).locate true path =
      (disk isWritten).walk true FileSystem.linkLimit ["w"] rest := by
  rw [FileSystem.locate_of_names hfault habsolute hnames, FileSystem.walk_blank]
  exact FileSystem.walk_folder (by decide) rfl

/-- The way through the link ends in the folder. -/
theorem locate_linkedFile (isWritten : Bool) :
    (disk isWritten).locate true linkedFile =
      (disk isWritten).walk true 39 ["w", "real"] ["Gen.fs"] := by
  have hnames : FileSystem.namesOf linkedFile.text = ["", "w", "link", "Gen.fs"] := by decide
  have htarget : FileSystem.namesOf "real" = ["real"] := by decide
  have hlimit : FileSystem.linkLimit = 39 + 1 := rfl
  rw [locate_below isWritten (by decide) (by decide) hnames, hlimit,
    FileSystem.walk_link (by decide) rfl, htarget]
  exact FileSystem.walk_folder (by decide) rfl

theorem normalize_linkedFile (isWritten : Bool) :
    (disk isWritten).normalize linkedFile = if isWritten then realFile else linkedFile := by
  have hname : FileSystem.IsName "Gen.fs" := by decide
  cases isWritten with
  | false =>
      have hcanonical : (disk false).canonical linkedFile = .error .notFound := by
        rw [FileSystem.canonical, locate_linkedFile, FileSystem.walk_missing hname rfl]
      rw [FileSystem.normalize, hcanonical]
      decide
  | true =>
      apply FileSystem.normalize_of_canonical
      rw [FileSystem.canonical, locate_linkedFile, FileSystem.walk_file hname rfl]
      decide

theorem locate_mainFile (isWritten : Bool) :
    (disk isWritten).locate true mainFile =
      (disk isWritten).walk true FileSystem.linkLimit ["w"] ["Main.fs"] := by
  have hnames : FileSystem.namesOf mainFile.text = ["", "w", "Main.fs"] := by decide
  exact locate_below isWritten (by decide) (by decide) hnames

theorem canonical_mainFile (isWritten : Bool) :
    (disk isWritten).canonical mainFile =
      if isWritten then .ok mainFile else .error .notFound := by
  have hname : FileSystem.IsName "Main.fs" := by decide
  cases isWritten with
  | false => rw [FileSystem.canonical, locate_mainFile, FileSystem.walk_missing hname rfl]; rfl
  | true =>
      have hpath : FileSystem.pathOf ["w", "Main.fs"] = mainFile := by decide
      rw [FileSystem.canonical, locate_mainFile, FileSystem.walk_file hname rfl, ← hpath]
      rfl

theorem isPlain_mainFile : (disk true).IsPlain mainFile := by
  have hcomponents : mainFile.components = [.root, .normal "w", .normal "Main.fs"] := by decide
  constructor
  · rw [hcomponents]
    decide
  · intro place hplace target hentry
    rw [hcomponents, List.cons_prefix_cons] at hplace
    obtain ⟨-, hplace⟩ := hplace
    -- only the root, the folder and the file are met
    rcases place with _ | ⟨folder, below⟩
    · cases hentry
    obtain ⟨hfolder, hbelow⟩ := List.cons_prefix_cons.1 hplace
    cases hfolder
    rcases below with _ | ⟨name, beyond⟩
    · cases hentry
    obtain ⟨hname, hbeyond⟩ := List.cons_prefix_cons.1 hbelow
    cases hname
    rw [List.map_eq_nil_iff.1 (List.prefix_nil.1 hbeyond)] at hentry
    cases hentry

theorem normalize_mainFile (isWritten : Bool) :
    (disk isWritten).normalize mainFile = mainFile := by
  rw [FileSystem.normalize, canonical_mainFile]
  cases isWritten with
  | false => decide
  | true => rfl

theorem normalize_workManifest (isWritten : Bool) :
    (disk isWritten).normalize workManifest = workManifest := by
  have hnames : FileSystem.namesOf workManifest.text = ["", "w", "App.fsproj"] := by decide
  apply FileSystem.normalize_of_canonical
  rw [FileSystem.canonical, locate_below isWritten (by decide) (by decide) hnames,
    FileSystem.walk_file (by decide) rfl]
  decide

/-- The host with the normal forms of its files written out, on which runs can be evaluated. -/
def workHostEvaluated : Host Bool Nat :=
  { workHost with
    normalize := fun isWritten path =>
      if path = workManifest ∨ path = mainFile then path
      else if path = linkedFile then if isWritten then realFile else linkedFile
      else (disk isWritten).normalize path }

theorem workHost_eq : workHost = workHostEvaluated := by
  have hnormalize : workHost.normalize = workHostEvaluated.normalize := by
    funext isWritten path
    change (disk isWritten).normalize path = if _ then _ else _
    split
    · rename_i hpath
      rcases hpath with rfl | rfl
      · exact normalize_workManifest isWritten
      · exact normalize_mainFile isWritten
    split
    · rename_i hpath
      rw [hpath]
      exact normalize_linkedFile isWritten
    · rfl
  change { workHost with normalize := workHost.normalize } = workHostEvaluated
  rw [hnormalize]
  rfl

/-- The request for the manifest, before the files are written. -/
def listingLetter : Letter Bool :=
  ⟨request workManifest, false⟩

theorem lists_workManifest :
    (Docket.run workHost .standard false [listingLetter]).Lists workHost workManifest
      [linkedFile, mainFile] false := by
  have hfile : ((Docket.start false).next workHostEvaluated .standard
      listingLetter).outcome.toOption.map (fun job => job.task.file) = some workManifest := by
    decide +kernel
  have hworld : (Work.receive workHostEvaluated listingLetter.payload
      ((Docket.start false).opened listingLetter)).2.world = false := by
    decide +kernel
  rw [← workHost_eq] at hfile hworld
  obtain ⟨job, hok, hjob⟩ := Option.map_eq_some_iff.1 hfile
  have hok : ((Docket.start false).next workHost .standard listingLetter).outcome = .ok job := by
    rcases houtcome : ((Docket.start false).next workHost .standard listingLetter).outcome with
      fault | made
    all_goals
      rw [houtcome] at hok
      cases hok
    rfl
  have hkind : SourceKinds.standard.classify job.task.file = .project := by
    rw [hjob]
    decide
  obtain ⟨files, later, hlists, hserved⟩ :=
    Docket.lists_serve_of_manifest Store.Keyed.empty hok hkind
  obtain ⟨_, received, _, -, hreceive, derived, hderived, rfl⟩ := hlists
  have hreceived : received.world = false :=
    (congrArg (fun received => received.2.world) hreceive).symm.trans hworld
  cases hderived
  rw [hreceived, hjob] at hserved
  exact hserved

end Sample

namespace History

open Sample

/-- What happens when the manifest is asked for, the files are written, and one is asked for. -/
def writtenBetween (file : Path) : List (Occurrence Bool) :=
  [.event (.ask (.compile (request workManifest))), .event (.move .take), .change true,
    .event (.ask (.compile (request file))), .event (.move .take)]

/-- A file that is listed before it is there is served afterwards under a path without links, and
the actor that takes the request files it. -/
theorem listing_writtenLater :
    let docket := Docket.run workHost .standard false [listingLetter]
    let letter : Letter Bool := ⟨request mainFile, true⟩
    (∀ isWritten path, workHost.normalize isWritten path = (disk isWritten).normalize path) ∧
      docket.ListedIn workHost mainFile false ∧
      ((disk false).canonical mainFile).toOption = none ∧
      ((disk true).canonical mainFile).toOption = some mainFile ∧
      ¬ docket.Refuses workHost .standard letter ∧
      ∃ history letters,
        (start false).live? workHost .standard (writtenBetween mainFile) = some history ∧
        (Docket.run workHost .standard false letters).Follows workHost history := by
  intro docket letter
  obtain ⟨hlaws, hfiled⟩ := listing_throughout workHost .standard disk fun _ _ => rfl
  have hlisted : docket.ListedIn workHost mainFile false :=
    ⟨workManifest, _, lists_workManifest, by decide⟩
  have hthen : ((disk false).canonical mainFile).toOption = none := by
    rw [canonical_mainFile]
    rfl
  have hnow : ((disk true).canonical mainFile).toOption = some mainFile := by
    rw [canonical_mainFile]
    rfl
  have hserved : ¬ docket.Refuses workHost .standard letter :=
    (hlaws false [listingLetter]).plain mainFile false letter hlisted ⟨_, rfl, rfl⟩
      (by decide) (Or.inl hthen) (Or.inr isPlain_mainFile)
  have hpossible : ((start false).live? workHostEvaluated .standard
      (writtenBetween mainFile)).isSome = true := by
    decide +kernel
  rw [← workHost_eq] at hpossible
  obtain ⟨history, hlive⟩ := Option.isSome_iff_exists.1 hpossible
  obtain ⟨letters, hfollows⟩ := hfiled _ _ history hlive
  exact ⟨fun _ _ => rfl, hlisted, hthen, hnow, hserved, history, letters, hlive, hfollows⟩

/-- A file that is listed through a link before it is there is refused afterwards, also by the
actor. -/
theorem refused_throughLink :
    let docket := Docket.run workHost .standard false [listingLetter]
    let letter : Letter Bool := ⟨request linkedFile, true⟩
    docket.ListedIn workHost linkedFile false ∧ letter.AsksFor linkedFile ∧
      docket.Refuses workHost .standard letter ∧
      ¬ docket.ServesListed workHost .standard ∧
      ((start false).live? workHost .standard (writtenBetween linkedFile)).map
          (fun history => history.actor.replies.map fun reply => (reply.1, reply.2.error?)) =
        some [(1, some ⟨-32602,
          "/w/real/Gen.fs doesn't belong to any of the loaded projects: /w/App.fsproj"⟩)] := by
  intro docket letter
  have hlisted : docket.ListedIn workHost linkedFile false :=
    ⟨workManifest, _, lists_workManifest, by decide⟩
  have hasks : letter.AsksFor linkedFile := ⟨_, rfl, rfl⟩
  have hforeign : isForeign
      ((Docket.run workHostEvaluated .standard false [listingLetter]).next workHostEvaluated
        .standard letter).outcome = true := by
    decide +kernel
  rw [← workHost_eq] at hforeign
  have hrefuses : docket.Refuses workHost .standard letter := exists_of_isForeign hforeign
  refine ⟨hlisted, hasks, hrefuses, fun hserves => ?_, ?_⟩
  · exact hserves linkedFile false letter hlisted (by decide) (by decide) hasks hrefuses
  · rw [workHost_eq]
    decide +kernel

end History

end CompileServer
