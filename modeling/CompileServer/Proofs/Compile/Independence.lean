import CompileServer.Proofs.Compile.Handling
import CompileServer.Proofs.Compile.Sample
import Mathlib.Logic.Equiv.Basic

/-!
# Independent requests

Two requests for files of different projects come to the same in either order.  Each of them
puts its own project back in its place and leaves the owner of the other file where it is, so
the orders differ at most in which of two new analyses is numbered first.
-/

namespace CompileServer

variable {α δ : Type}

/-! ## Numbers of analyses -/

/-- The job with another number of its analysis. -/
def Job.renumber (rename : Nat → Nat) (job : Job α) : Job α :=
  { job with project := job.project.renumber rename }

/-- The exchange with another number of the analysis that it is about. -/
def Exchange.renumber (rename : Nat → Nat) : Exchange α → Exchange α
  | .describe analysis answer => .describe (analysis.renumber rename) answer
  | .transform analysis task log answer =>
    .transform (analysis.renumber rename) task log answer
  | said => said

/-- The account with other numbers of analyses. -/
def Account.renumber (rename : Nat → Nat) (account : Account α) : Account α :=
  { account with
    outcome := account.outcome.map fun done => (done.1.renumber rename, done.2)
    said := account.said.map (Exchange.renumber rename) }

/-- If the request of an account got a project, then it is the owner with another analysis. -/
def Account.Concerns (account : Account α) (owner : Project α) : Prop :=
  ∀ done, account.outcome = .ok done → done.1.project.TakesAfter owner

namespace Answers

variable {answers : Answers α}

/-- Code generation does not depend on the number of an analysis. -/
def Unnumbered (answers : Answers α) : Prop :=
  ∀ left right task log, left.value = right.value →
    answers.transform left task log = answers.transform right task log

theorem Unnumbered.transform_renumber (hunnumbered : answers.Unnumbered) (rename : Nat → Nat)
    (job : Job α) :
    answers.transform (job.renumber rename).project.analysis job.task job.log =
      answers.transform job.project.analysis job.task job.log :=
  hunnumbered _ _ job.task job.log rfl

theorem Unnumbered.emitting_renumber (hunnumbered : answers.Unnumbered) (rename : Nat → Nat)
    (job : Job α) :
    answers.emitting (job.renumber rename) =
      (answers.emitting job).map (Exchange.renumber rename) := by
  have htransform := hunnumbered.transform_renumber rename job
  have hskipped : (job.renumber rename).isSkipped = job.isSkipped := rfl
  have hlog : (job.renumber rename).log = job.log := rfl
  have htask : (job.renumber rename).task = job.task := rfl
  simp only [emitting, hskipped, hlog, htask, htransform]
  cases job.isSkipped with
  | true => rfl
  | false =>
      rcases answers.transform job.project.analysis job.task job.log with
        panic | (causes | found) <;> rfl

theorem Unnumbered.reply_renumber (hunnumbered : answers.Unnumbered) (rename : Nat → Nat)
    (job : Job α) : answers.reply (job.renumber rename) = answers.reply job := by
  have htransform := hunnumbered.transform_renumber rename job
  have hemit : answers.emit (job.renumber rename) = answers.emit job := by
    have hskipped : (job.renumber rename).isSkipped = job.isSkipped := rfl
    have hlog : (job.renumber rename).log = job.log := rfl
    have htask : (job.renumber rename).task = job.task := rfl
    have hfiles : (job.renumber rename).project.sourceFiles = job.project.sourceFiles := rfl
    simp only [emit, hskipped, hlog, htask, hfiles, htransform]
  simp only [reply, Job.run, answers.emit_host, hemit]

theorem Unnumbered.done_renumber (hunnumbered : answers.Unnumbered) (rename : Nat → Nat)
    (decision : Decision) (job : Job α) (said : List (Exchange α)) :
    (answers.done decision job said).renumber rename =
      answers.done decision (job.renumber rename) (said.map (Exchange.renumber rename)) := by
  unfold done
  rw [hunnumbered.reply_renumber, hunnumbered.emitting_renumber, ← List.map_append]
  rfl

/-- The account of a request for an owned file is the same for every number of analyses, but
for the number of the one that it makes. -/
theorem Unnumbered.account_renumber (hunnumbered : answers.Unnumbered) {kinds : SourceKinds}
    {task : CompileTask} {owner : Project α} {rename : Nat → Nat} {number other : Nat}
    (hkept : rename owner.generation = owner.generation)
    (hnew : answers.analysesFor kinds task owner = 1 → rename (number + 1) = other + 1) :
    (answers.account kinds task owner number).renumber rename =
      answers.account kinds task owner other := by
  unfold analysesFor at hnew
  unfold account
  cases hstale : owner.isStale kinds task.file with
  | false =>
      simp only [Bool.false_eq_true, if_false, hunnumbered.done_renumber, Job.renumber,
        Project.renumber_markCompiled, Project.renumber_eq_self hkept, List.map_nil]
  | true =>
      simp only [hstale, if_true, Bool.true_and] at hnew ⊢
      cases hverdict : Work.verdict (.frontEnd owner.projectFile)
          (answers.check owner.options) with
      | error fault => rfl
      | ok checked =>
          rw [hverdict] at hnew
          have hmade : rename (number + 1) = other + 1 := hnew rfl
          simp only [hunnumbered.done_renumber, Job.renumber, Project.renumber_markCompiled,
            Project.renumber_fresh, Analysis.renumber, hmade]
          rfl

theorem analysesFor_le (answers : Answers α) (kinds : SourceKinds) (task : CompileTask)
    (owner : Project α) : answers.analysesFor kinds task owner ≤ 1 := by
  unfold analysesFor
  split
  · exact Nat.le_refl 1
  · exact Nat.zero_le 1

/-- A request for an owned file gets its owner, perhaps with another analysis. -/
theorem concerns_account (answers : Answers α) (kinds : SourceKinds) (task : CompileTask)
    (owner : Project α) (number : Nat) :
    (answers.account kinds task owner number).Concerns owner := by
  intro done hdone
  unfold account at hdone
  cases hstale : owner.isStale kinds task.file with
  | false =>
      rw [hstale] at hdone
      cases hdone
      exact (Project.TakesAfter.refl owner).markCompiled task.file
  | true =>
      simp only [hstale, if_true] at hdone
      cases hverdict : Work.verdict (.frontEnd owner.projectFile)
          (answers.check owner.options) with
      | error fault =>
          rw [hverdict] at hdone
          cases hdone
      | ok checked =>
          rw [hverdict] at hdone
          cases hdone
          exact (Project.TakesAfter.fresh owner _).markCompiled task.file

end Answers

/-! ## Accepting accounts -/

namespace Store

variable {store : Store α} {first second : Account α} {owner other : Project α}

theorem accept_renumber (rename : Nat → Nat) (store : Store α) (account : Account α) :
    (store.accept account).renumber rename =
      (store.renumber rename).accept (account.renumber rename) := by
  unfold accept Account.renumber
  cases account.outcome with
  | error fault => rfl
  | ok done => exact renumber_replace rename store done.1.project

theorem accept_comm (store : Store α) (hfirst : first.Concerns owner)
    (hsecond : second.Concerns other)
    (hdifferent : ¬ owner.projectFile ≈ other.projectFile) :
    (store.accept first).accept second = (store.accept second).accept first := by
  unfold accept
  cases houtcome : first.outcome with
  | error fault => rfl
  | ok done =>
      cases hother : second.outcome with
      | error fault => rfl
      | ok last =>
          apply replace_comm
          rw [(hfirst done houtcome).projectFile, (hsecond last hother).projectFile]
          exact hdifferent

theorem Keyed.accept (hkeyed : store.Keyed) (account : Account α) :
    (store.accept account).Keyed := by
  unfold Store.accept
  cases account.outcome with
  | error fault => exact hkeyed
  | ok done => exact hkeyed.replace done.1.project

theorem Assigns.accept {kinds : SourceKinds} {file : Path}
    (hassigned : store.Assigns kinds file owner) (hkeyed : store.Keyed)
    (hstored : store.get? other.projectFile = some other) (hconcerns : first.Concerns other)
    (hdifferent : ¬ other.projectFile ≈ owner.projectFile) :
    (store.accept first).Assigns kinds file owner := by
  unfold Store.accept
  cases houtcome : first.outcome with
  | error fault => exact hassigned
  | ok done =>
      exact hassigned.replace hkeyed hstored (hconcerns done houtcome) hdifferent

end Store

/-! ## Both orders -/

/-- There is a renaming of the numbers that two requests give, each to at most one analysis. -/
theorem exists_renaming (number : Nat) {first second : Nat} (hfirst : first ≤ 1)
    (hsecond : second ≤ 1) :
    ∃ rename : Equiv.Perm Nat, (∀ old ≤ number, rename old = old) ∧
      (first = 1 → rename (number + 1) = number + second + 1) ∧
      (second = 1 → rename (number + first + 1) = number + 1) := by
  by_cases hboth : first = 1 ∧ second = 1
  · -- Whichever request comes first takes the first of the two new numbers.
    obtain ⟨rfl, rfl⟩ := hboth
    refine ⟨Equiv.swap (number + 1) (number + 2), ?_, ?_, ?_⟩
    · intro old hold
      apply Equiv.swap_apply_of_ne_of_ne <;> omega
    · exact fun _ => Equiv.swap_apply_left _ _
    · exact fun _ => Equiv.swap_apply_right _ _
  · refine ⟨Equiv.refl Nat, fun _ _ => rfl, ?_, ?_⟩
    · intro hone
      have hzero : second = 0 := by omega
      rw [hzero]
      rfl
    · intro hone
      have hzero : first = 0 := by omega
      rw [hzero]
      rfl

namespace Session

/-- Handles a request after another one. -/
def handledAfter (host : Host δ α) (kinds : SourceKinds) (earlier task : CompileTask)
    (session : Session δ α) : Account α × Session δ α :=
  (session.handled host kinds earlier).2.handled host kinds task

/-- In either order two requests come to the same, but for the numbers of new analyses. -/
structure Commutes (host : Host δ α) (kinds : SourceKinds) (one other : CompileTask)
    (session : Session δ α) (rename : Equiv.Perm Nat) : Prop where
  kept : ∀ number ≤ session.analyses, rename number = number
  ofOne : (session.handledAfter host kinds other one).1 =
    (session.handled host kinds one).1.renumber rename
  ofOther : (session.handled host kinds other).1 =
    (session.handledAfter host kinds one other).1.renumber rename
  store : (session.handledAfter host kinds other one).2.store =
    (session.handledAfter host kinds one other).2.store.renumber rename
  analyses : (session.handledAfter host kinds other one).2.analyses =
    (session.handledAfter host kinds one other).2.analyses
  plugins : (session.handledAfter host kinds other one).2.plugins =
    (session.handledAfter host kinds one other).2.plugins
  world : (session.handledAfter host kinds other one).2.world =
    (session.handledAfter host kinds one other).2.world

variable {kinds : SourceKinds} {one other : CompileTask} {session : Session δ α}
  {left right : Project α}

/-- What comes of a request for an owned file after one for a file of another project. -/
theorem handledAfter_of_assigns (answers : Answers α) (saving : Saving δ)
    (hkeyed : session.store.Keyed)
    (hone : session.store.Assigns kinds one.file left)
    (hother : session.store.Assigns kinds other.file right)
    (hdifferent : ¬ left.projectFile ≈ right.projectFile) (hdumpOne : one.dumpFolder = none)
    (hdumpOther : other.dumpFolder = none) :
    session.handledAfter (answers.host saving) kinds one other =
      (answers.account kinds other right
          (session.analyses + answers.analysesFor kinds one left),
        { session with
          store := (session.store.accept
              (answers.account kinds one left session.analyses)).accept
            (answers.account kinds other right
              (session.analyses + answers.analysesFor kinds one left))
          analyses := session.analyses + answers.analysesFor kinds one left +
            answers.analysesFor kinds other right
          log := (answers.account kinds other right
            (session.analyses + answers.analysesFor kinds one left)).log }) := by
  have hstays := hother.accept hkeyed (hone.stored hkeyed)
    (answers.concerns_account kinds one left session.analyses) hdifferent
  unfold handledAfter
  rw [handled_of_assigns hkeyed hone hdumpOne,
    handled_of_assigns (hkeyed.accept _) hstays hdumpOther]

/-- Requests for files of different projects commute. -/
theorem exists_commutes {answers : Answers α} (hunnumbered : answers.Unnumbered)
    (saving : Saving δ) (hkeyed : session.store.Keyed)
    (hold : ∀ key project, session.store.get? key = some project →
      project.generation ≤ session.analyses)
    (hone : session.store.Assigns kinds one.file left)
    (hother : session.store.Assigns kinds other.file right)
    (hdifferent : ¬ left.projectFile ≈ right.projectFile) (hdumpOne : one.dumpFolder = none)
    (hdumpOther : other.dumpFolder = none) :
    ∃ rename, session.Commutes (answers.host saving) kinds one other rename := by
  obtain ⟨rename, hkept, hnewOne, hnewOther⟩ := exists_renaming session.analyses
    (answers.analysesFor_le kinds one left) (answers.analysesFor_le kinds other right)
  have hforth := handledAfter_of_assigns answers saving hkeyed hone hother hdifferent hdumpOne
    hdumpOther
  have hback := handledAfter_of_assigns answers saving hkeyed hother hone
    (fun hsame => hdifferent (Setoid.symm hsame)) hdumpOther hdumpOne
  have hofOne : (answers.account kinds one left session.analyses).renumber rename =
      answers.account kinds one left
        (session.analyses + answers.analysesFor kinds other right) :=
    hunnumbered.account_renumber (hkept _ (hold _ _ (hone.stored hkeyed))) hnewOne
  have hofOther : (answers.account kinds other right
        (session.analyses + answers.analysesFor kinds one left)).renumber rename =
      answers.account kinds other right session.analyses :=
    hunnumbered.account_renumber (hkept _ (hold _ _ (hother.stored hkeyed))) hnewOther
  -- Every number in the store is an old one, and old numbers keep their names.
  have hstore : session.store.renumber rename = session.store :=
    Store.renumber_eq_self fun key project hstored => hkept _ (hold key project hstored)
  refine ⟨rename, ?_⟩
  constructor
  · exact hkept
  · rw [hback, handled_of_assigns hkeyed hone hdumpOne, hofOne]
  · rw [hforth, handled_of_assigns hkeyed hother hdumpOther, hofOther]
  · rw [hback, hforth]
    calc
      (session.store.accept (answers.account kinds other right session.analyses)).accept
            (answers.account kinds one left
              (session.analyses + answers.analysesFor kinds other right)) =
          (session.store.accept (answers.account kinds one left
              (session.analyses + answers.analysesFor kinds other right))).accept
            (answers.account kinds other right session.analyses) :=
        Store.accept_comm session.store (answers.concerns_account kinds other right _)
          (answers.concerns_account kinds one left _)
          fun hsame => hdifferent (Setoid.symm hsame)
      _ = ((session.store.accept (answers.account kinds one left session.analyses)).accept
            (answers.account kinds other right
              (session.analyses + answers.analysesFor kinds one left))).renumber rename := by
        rw [Store.accept_renumber, Store.accept_renumber, hstore, hofOne, hofOther]
  · rw [hback, hforth]
    exact Nat.add_right_comm _ _ _
  · rw [hback, hforth]
  · rw [hback, hforth]

/-- Doing the job of a request leaves the store that resolving it leaves. -/
theorem handled_store (host : Host δ α) (kinds : SourceKinds) (task : CompileTask)
    (session : Session δ α) :
    (session.handled host kinds task).2.store =
      (Work.resolve host kinds task { session with log := [] }).2.store := by
  have hhandled := congrArg Prod.snd (Work.handle_eq_handled host kinds task session)
  rw [← hhandled]
  unfold Work.handle
  rcases hresolve : Work.resolve host kinds task { session with log := [] } with
    ⟨fault | project, resolved⟩
  · rw [Work.bind_of_error hresolve]
  · rw [Work.bind_of_ok hresolve]
    rfl

end Session

/-- A request for a source file, or for a script that only belongs to another project, leaves the
names of all owners, and two such requests for files of different projects come to the same in
either order. -/
theorem Ledger.independent_run {answers : Answers α} (hunnumbered : answers.Unnumbered)
    (saving : Saving δ) (kinds : SourceKinds) (disk : δ) (arrivals : List (Arrival δ)) :
    let session := (run (answers.host saving) kinds disk arrivals).session.forget
    (∀ task : CompileTask,
      (kinds.classify task.file = .source ∨
        kinds.classify task.file = .script ∧ session.store.get? task.file = none ∧
          (session.store.findOwner task.file).isSome = true) →
      ∀ file, ((session.handled (answers.host saving) kinds task).2.store.findOwner file).map
          Project.projectFile =
        (session.store.findOwner file).map Project.projectFile) ∧
    ∀ (one other : CompileTask) (left right : Project α),
      one.dumpFolder = none → other.dumpFolder = none →
      session.store.Assigns kinds one.file left → session.store.Assigns kinds other.file right →
      ¬ left.projectFile ≈ right.projectFile →
      ∃ rename, session.Commutes (answers.host saving) kinds one other rename := by
  intro session
  have hcurrent := (lawful_run (answers.host saving) kinds disk arrivals).current
  constructor
  · intro task hkind file
    have hopened : ({ session with log := [] } : Session δ α).store.Keyed := hcurrent.keyed
    rw [session.handled_store]
    exact Work.owners_resolve (answers.host saving) hopened hkind file
  · intro one other left right hdumpOne hdumpOther hone hother hdifferent
    exact Session.exists_commutes hunnumbered saving hcurrent.keyed
      (fun key project hstored => (hcurrent.stored key project hstored).2) hone hother hdifferent
      hdumpOne hdumpOther

namespace Sample

/-- The other manifest. -/
def otherManifest : Path := ⟨"/q/Lib.fsproj"⟩

/-- The answers of the small host, but with one file in each of two projects. -/
def apart : Answers Nat :=
  { answers with
    deriveOptions := fun defines project =>
      .ok (.ok ⟨project, [if project = manifest then firstFile else secondFile], defines,
        .null⟩) }

theorem apart_unnumbered : apart.Unnumbered := by
  intro left right task log hvalue
  simp only [apart, answers, hvalue]

/-- The task to compile a file. -/
def task (file : Path) : CompileTask :=
  ⟨file, [], [], [], []⟩

/-- Requests for both projects and their files. -/
def arrivals : List (Arrival Unit) :=
  [manifest, otherManifest, firstFile, secondFile].map fun file => ⟨task file, ()⟩

end Sample

/-- The second requests for two files have both projects checked again, and only the numbers of
the two new analyses show which of them came first. -/
theorem Ledger.independent_twoProjects :
    let host := Sample.apart.host fun _ _ _ => pure (.ok ())
    let session := (run host .standard () Sample.arrivals).session.forget
    session.analyses = 2 ∧
      (session.handledAfter host .standard (Sample.task Sample.firstFile)
        (Sample.task Sample.secondFile)).2.analyses = 4 ∧
      ∃ rename, session.Commutes host .standard (Sample.task Sample.firstFile)
        (Sample.task Sample.secondFile) rename := by
  intro host session
  have hleft : (session.store.findOwner Sample.firstFile).map Project.projectFile =
      some Sample.manifest := by
    decide +kernel
  have hright : (session.store.findOwner Sample.secondFile).map Project.projectFile =
      some Sample.otherManifest := by
    decide +kernel
  obtain ⟨left, hone, hleft⟩ := Option.map_eq_some_iff.1 hleft
  obtain ⟨right, hother, hright⟩ := Option.map_eq_some_iff.1 hright
  have hdifferent : ¬ left.projectFile ≈ right.projectFile := by
    rw [hleft, hright]
    decide +kernel
  refine ⟨by decide +kernel, by decide +kernel, ?_⟩
  exact (independent_run Sample.apart_unnumbered _ .standard () Sample.arrivals).2
    (Sample.task Sample.firstFile) (Sample.task Sample.secondFile) left right rfl rfl
    ⟨hone, Or.inl (by decide +kernel)⟩ ⟨hother, Or.inl (by decide +kernel)⟩ hdifferent

end CompileServer
