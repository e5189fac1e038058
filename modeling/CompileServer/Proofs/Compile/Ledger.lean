import CompileServer.Proofs.Compile.Recorded

/-!
# Ledgers of requests

A ledger is a run of requests with everything that came of them.  Between two requests
the world may change in any way, so a run covers every host, however it behaves.  The
invariants below tie what the store holds to the requests of the past: which request
made an analysis, which requests the stored project has served, and that a file that is
asked for again is served with a later analysis.
-/

namespace CompileServer

/-- A request, with the world it finds. -/
structure Arrival (σ : Type) where
  task : CompileTask
  world : σ

/-- A request that was worked on. -/
structure Handled (σ α : Type) where
  task : CompileTask
  before : Session (Recorded σ α) α
  outcome : Except Fault (Project α)
  after : Session (Recorded σ α) α

/-- The requests so far, oldest first, and the session they left. -/
structure Ledger (σ α : Type) where
  past : List (Handled σ α)
  session : Session (Recorded σ α) α

variable {σ α : Type}

namespace Handled

/-- The analysis with a number was made for this request. -/
def Makes (served : Handled σ α) (generation : Nat) : Prop :=
  served.before.analyses < generation ∧ generation ≤ served.after.analyses

/-- The request was for a file and got a project. -/
def Gets (served : Handled σ α) (file : Path) (project : Project α) : Prop :=
  served.outcome = .ok project ∧ served.task.file ≈ file

end Handled

namespace Ledger

/-- The ledger before the first request. -/
def start (world : σ) : Ledger σ α :=
  ⟨[], .start ⟨world, []⟩⟩

/-- The session that the next request finds, with nothing written down yet. -/
def opened (ledger : Ledger σ α) (arrival : Arrival σ) : Session (Recorded σ α) α :=
  { ledger.session with log := [], world := ⟨arrival.world, []⟩ }

/-- What comes of the next request. -/
def next (host : Host σ α) (kinds : SourceKinds) (ledger : Ledger σ α)
    (arrival : Arrival σ) : Handled σ α :=
  let resolved := Work.resolve host.recorded kinds arrival.task (ledger.opened arrival)
  ⟨arrival.task, ledger.opened arrival, resolved.1, resolved.2⟩

/-- Writes a request down that was worked on. -/
def add (ledger : Ledger σ α) (served : Handled σ α) : Ledger σ α :=
  ⟨ledger.past ++ [served], served.after⟩

/-- Works on the next request. -/
def serve (host : Host σ α) (kinds : SourceKinds) (ledger : Ledger σ α)
    (arrival : Arrival σ) : Ledger σ α :=
  ledger.add (ledger.next host kinds arrival)

/-- The ledger of a run. -/
def run (host : Host σ α) (kinds : SourceKinds) (world : σ) (arrivals : List (Arrival σ)) :
    Ledger σ α :=
  arrivals.foldl (serve host kinds) (start world)

/-- The analysis with a number was made for the request at a position. -/
def MadeAt (ledger : Ledger σ α) (position generation : Nat) : Prop :=
  ∃ maker, ledger.past[position]? = some maker ∧ maker.Makes generation

/-- The request at a position was for a file and got the project under a key. -/
def ServedAt (ledger : Ledger σ α) (position : Nat) (file key : Path) : Prop :=
  ∃ served got, ledger.past[position]? = some served ∧ served.Gets file got ∧
    got.projectFile ≈ key

/-- Some request for a file got the project at or after the request that its analysis
was made for. -/
def CompiledSince (ledger : Ledger σ α) (project : Project α) (file : Path) : Prop :=
  ∃ first later, ledger.MadeAt first project.generation ∧ first ≤ later ∧
    ledger.ServedAt later file project.projectFile

/-- Numbers of analyses only grow, and every number was given during some request. -/
structure Numbered (ledger : Ledger σ α) : Prop where
  ordered : ledger.past.Pairwise fun earlier later =>
    earlier.after.analyses ≤ later.before.analyses
  bounded : ∀ served ∈ ledger.past, served.before.analyses ≤ served.after.analyses ∧
    served.after.analyses ≤ ledger.session.analyses
  made : ∀ generation, 0 < generation → generation ≤ ledger.session.analyses →
    ∃ served ∈ ledger.past, served.Makes generation

/-- The store knows the analyses of the past. -/
structure Current (ledger : Ledger σ α) : Prop where
  keyed : ledger.session.store.Keyed
  stored : ∀ key project, ledger.session.store.get? key = some project →
    0 < project.generation ∧ project.generation ≤ ledger.session.analyses
  given : ∀ served ∈ ledger.past, ∀ project, served.outcome = .ok project →
    project.generation ≤ served.after.analyses
  kept : ∀ served ∈ ledger.past, ∀ project, served.outcome = .ok project →
    ∃ now, ledger.session.store.get? project.projectFile = some now ∧
      (project.generation = now.generation ∨ served.after.analyses < now.generation)

/-- A file counts as compiled if a request for it got the project as it is checked now. -/
def Marked (ledger : Ledger σ α) : Prop :=
  ∀ key project, ledger.session.store.get? key = some project → ∀ file,
    project.isCompiled file = true ↔ ∃ served ∈ ledger.past, ∃ got,
      served.Gets file got ∧ got.projectFile ≈ key ∧ got.generation = project.generation

/-- Requests for one file that get one project get it with ever later analyses. -/
def Increasing (ledger : Ledger σ α) : Prop :=
  ledger.past.Pairwise fun earlier later => ∀ file first second,
    earlier.Gets file first → later.Gets file second →
    first.projectFile ≈ second.projectFile → first.generation < second.generation

/-- An analysis belongs to one project. -/
structure Owned (ledger : Ledger σ α) : Prop where
  stored : ∀ left right first second, ledger.session.store.get? left = some first →
    ledger.session.store.get? right = some second →
    first.generation = second.generation → left ≈ right
  past : ∀ served ∈ ledger.past, ∀ got, served.outcome = .ok got →
    ∀ key project, ledger.session.store.get? key = some project →
    got.generation = project.generation → got.projectFile ≈ key
  given : ledger.past.Pairwise fun earlier later => ∀ first second,
    earlier.outcome = .ok first → later.outcome = .ok second →
    first.generation = second.generation → first.projectFile ≈ second.projectFile

/-- An analysis is only made for a request that had a project checked. -/
def Checked (ledger : Ledger σ α) : Prop :=
  ∀ handled ∈ ledger.past, ∀ generation, handled.Makes generation →
    handled.after.world.checks ≠ []

/-- Everything that ties the store to the past. -/
structure Lawful (ledger : Ledger σ α) : Prop where
  checked : ledger.Checked
  numbered : ledger.Numbered
  current : ledger.Current
  marked : ledger.Marked
  increasing : ledger.Increasing
  owned : ledger.Owned

theorem lawful_start (world : σ) : (start world : Ledger σ α).Lawful where
  checked _ hserved := by cases hserved
  numbered :=
    { ordered := .nil
      bounded := fun _ hserved => by cases hserved
      made := fun _ hpos hle => absurd hle (Nat.not_le.2 hpos) }
  current :=
    { keyed := .empty
      stored := fun _ _ hstored => by cases hstored
      given := fun _ hserved => by cases hserved
      kept := fun _ hserved => by cases hserved }
  marked _ _ hstored := by cases hstored
  increasing := .nil
  owned :=
    { stored := fun _ _ _ _ hstored => by cases hstored
      past := fun _ hserved => by cases hserved
      given := .nil }

/-- What the next request can do to the store. -/
inductive Advance (ledger : Ledger σ α) (served : Handled σ α) : Prop where
  | failed (hbefore : served.before.analyses = ledger.session.analyses)
      (houtcome : ∀ project, served.outcome ≠ .ok project)
      (hstore : served.after.store = ledger.session.store)
      (hgrown : ledger.session.analyses ≤ served.after.analyses)
  | rebuilt {project : Project α} (hbefore : served.before.analyses = ledger.session.analyses)
      (houtcome : served.outcome = .ok project)
      (hpublished : ledger.session.store.Publishes served.after.store project)
      (hgeneration : project.generation = ledger.session.analyses + 1)
      (hafter : served.after.analyses = ledger.session.analyses + 1)
      (hcompiled : ∀ file, project.isCompiled file = true ↔ file ≈ served.task.file)
  | reused {project owner : Project α}
      (hbefore : served.before.analyses = ledger.session.analyses)
      (houtcome : served.outcome = .ok project)
      (hpublished : ledger.session.store.Publishes served.after.store project)
      (howner : ledger.session.store.get? project.projectFile = some owner)
      (hgeneration : project.generation = owner.generation)
      (hafter : served.after.analyses = ledger.session.analyses)
      (hfresh : owner.isCompiled served.task.file = false)
      (hcompiled : ∀ file, project.isCompiled file = true ↔
        file ≈ served.task.file ∨ owner.isCompiled file = true)

/-- The record changes nothing about what comes of a request. -/
theorem next_forget (host : Host σ α) (kinds : SourceKinds) (ledger : Ledger σ α)
    (arrival : Arrival σ) :
    Work.resolve host kinds arrival.task (ledger.next host kinds arrival).before.forget =
      ((ledger.next host kinds arrival).outcome,
        (ledger.next host kinds arrival).after.forget) :=
  Work.mirrors_resolve host arrival.task kinds _

theorem checks_next_of_makes {host : Host σ α} {kinds : SourceKinds} {ledger : Ledger σ α}
    {arrival : Arrival σ} {generation : Nat}
    (hmakes : (ledger.next host kinds arrival).Makes generation) :
    (ledger.next host kinds arrival).after.world.checks ≠ [] := by
  have hcounts : Work.CountsChecks (ledger.next host kinds arrival).before
      (ledger.next host kinds arrival).after :=
    Work.countsChecks_resolve host arrival.task kinds _
  intro hnone
  obtain ⟨hlt, hle⟩ := hmakes
  unfold Work.CountsChecks at hcounts
  rw [hnone, List.length_nil] at hcounts
  omega

theorem advance_of_resolved {host : Host (Recorded σ α) α} {kinds : SourceKinds}
    {ledger : Ledger σ α} {served : Handled σ α}
    (hstore : served.before.store = ledger.session.store)
    (hanalyses : served.before.analyses = ledger.session.analyses)
    (hresolved : Resolved host kinds served.task served.before served.outcome served.after) :
    ledger.Advance served := by
  obtain ⟨task, before, outcome, after⟩ := served
  simp only at hstore hanalyses hresolved
  cases hresolved with
  | failed hextends =>
      exact .failed hanalyses (fun _ hok => by cases hok) (hextends.store.trans hstore)
        (hanalyses ▸ hextends.analyses)
  | @rebuilt project seed made _ _ hmade hpublished =>
      rw [hstore] at hpublished
      refine .rebuilt hanalyses rfl hpublished ?_ (hanalyses ▸ hmade.analyses)
        (hmade.isCompiled_markCompiled task.file)
      rw [Project.markCompiled_generation, hmade.generation, hanalyses]
  | @reused owner _ _ hstored _ hfresh hpublished hafter =>
      rw [hstore] at hpublished hstored
      have hsame : after.analyses = before.analyses := by rw [hafter]
      refine .reused hanalyses rfl hpublished ?_ (owner.markCompiled_generation _)
        (hsame.trans hanalyses) hfresh fun file => owner.isCompiled_markCompiled _ file
      rw [Project.markCompiled_projectFile]
      exact hstored

theorem advance_next (host : Host σ α) (kinds : SourceKinds) {ledger : Ledger σ α}
    (hkeyed : ledger.session.store.Keyed) (arrival : Arrival σ) :
    ledger.Advance (ledger.next host kinds arrival) :=
  advance_of_resolved rfl rfl (Work.resolved_resolve host.recorded kinds arrival.task hkeyed)

variable {ledger : Ledger σ α} {served : Handled σ α}

theorem Advance.before (hadvance : ledger.Advance served) :
    served.before.analyses = ledger.session.analyses := by
  cases hadvance <;> assumption

theorem Advance.grown (hadvance : ledger.Advance served) :
    ledger.session.analyses ≤ served.after.analyses := by
  cases hadvance with
  | failed _ _ _ hgrown => exact hgrown
  | rebuilt _ _ _ _ hafter => exact hafter ▸ Nat.le_succ _
  | reused _ _ _ _ _ hafter => exact Nat.le_of_eq hafter.symm

/-- A project that a request gets is in the store afterwards. -/
theorem Advance.given (hadvance : ledger.Advance served) {project : Project α}
    (hgot : served.outcome = .ok project) :
    served.after.store.get? project.projectFile = some project := by
  cases hadvance with
  | failed _ houtcome => exact absurd hgot (houtcome project)
  | rebuilt _ houtcome hpublished =>
      cases houtcome.symm.trans hgot
      rw [hpublished, if_pos (Setoid.refl _)]
  | reused _ houtcome hpublished =>
      cases houtcome.symm.trans hgot
      rw [hpublished, if_pos (Setoid.refl _)]

/-- The analysis of a project that a request gets is new or that of a stored project. -/
theorem Advance.generation (hadvance : ledger.Advance served) {project : Project α}
    (hgot : served.outcome = .ok project) :
    project.generation ≤ served.after.analyses ∧
      ledger.session.analyses < project.generation ∨
    ∃ owner, ledger.session.store.get? project.projectFile = some owner ∧
      project.generation = owner.generation := by
  cases hadvance with
  | failed _ houtcome => exact absurd hgot (houtcome project)
  | rebuilt _ houtcome _ hgeneration hafter =>
      cases houtcome.symm.trans hgot
      exact Or.inl ⟨hgeneration.trans hafter.symm ▸ Nat.le_refl _,
        hgeneration ▸ Nat.lt_succ_self _⟩
  | reused _ houtcome _ howner hgeneration =>
      cases houtcome.symm.trans hgot
      exact Or.inr ⟨_, howner, hgeneration⟩

/-- What is stored after a request was stored before, or the request got it. -/
theorem Advance.stored (hadvance : ledger.Advance served) {key : Path} {project : Project α}
    (hstored : served.after.store.get? key = some project) :
    (ledger.session.store.get? key = some project ∧
      ∀ got, served.outcome = .ok got → ¬ key ≈ got.projectFile) ∨
    (served.outcome = .ok project ∧ key ≈ project.projectFile) := by
  have hpublish : ∀ published, served.outcome = .ok published →
      ledger.session.store.Publishes served.after.store published →
      (ledger.session.store.get? key = some project ∧
        ∀ got, served.outcome = .ok got → ¬ key ≈ got.projectFile) ∨
      (served.outcome = .ok project ∧ key ≈ project.projectFile) := by
    intro published houtcome hpublished
    rw [hpublished key] at hstored
    split at hstored
    · rename_i hkey
      cases hstored
      exact Or.inr ⟨houtcome, hkey⟩
    · rename_i hkey
      refine Or.inl ⟨hstored, fun got hgot => ?_⟩
      cases houtcome.symm.trans hgot
      exact hkey
  cases hadvance with
  | failed _ houtcome hstore =>
      rw [hstore] at hstored
      exact Or.inl ⟨hstored, fun got hgot => absurd hgot (houtcome got)⟩
  | rebuilt _ houtcome hpublished => exact hpublish _ houtcome hpublished
  | reused _ houtcome hpublished => exact hpublish _ houtcome hpublished

/-- A stored project stays, or gives way to one with a later analysis. -/
theorem Advance.kept (hadvance : ledger.Advance served) {key : Path} {project : Project α}
    (hstored : ledger.session.store.get? key = some project) :
    ∃ now, served.after.store.get? key = some now ∧
      (project.generation = now.generation ∨ ledger.session.analyses < now.generation) := by
  cases hadvance with
  | failed _ _ hstore => exact ⟨project, hstore ▸ hstored, Or.inl rfl⟩
  | @rebuilt published _ _ hpublished hgeneration =>
      rw [hpublished key]
      split
      · exact ⟨published, rfl, Or.inr (hgeneration ▸ Nat.lt_succ_self _)⟩
      · exact ⟨project, hstored, Or.inl rfl⟩
  | @reused published _ _ _ hpublished howner hgeneration =>
      rw [hpublished key]
      split
      · rename_i hkey
        rw [← Store.get?_congr _ hkey, hstored] at howner
        cases howner
        exact ⟨published, rfl, Or.inl hgeneration.symm⟩
      · exact ⟨project, hstored, Or.inl rfl⟩

theorem mem_add {other : Handled σ α} :
    other ∈ (ledger.add served).past ↔ other ∈ ledger.past ∨ other = served :=
  List.mem_append.trans (or_congr_right List.mem_singleton)

theorem pairwise_add {relation : Handled σ α → Handled σ α → Prop} :
    (ledger.add served).past.Pairwise relation ↔
      ledger.past.Pairwise relation ∧ ∀ earlier ∈ ledger.past, relation earlier served := by
  simp only [add, List.pairwise_append, List.pairwise_singleton, List.mem_singleton,
    forall_eq, true_and]

theorem Numbered.add (hnumbered : ledger.Numbered) (hadvance : ledger.Advance served) :
    (ledger.add served).Numbered where
  ordered := by
    refine pairwise_add.2 ⟨hnumbered.ordered, fun earlier hearlier => ?_⟩
    rw [hadvance.before]
    exact (hnumbered.bounded earlier hearlier).2
  bounded other hother := by
    rcases mem_add.1 hother with hother | rfl
    · obtain ⟨hgrown, hbounded⟩ := hnumbered.bounded other hother
      exact ⟨hgrown, Nat.le_trans hbounded hadvance.grown⟩
    · exact ⟨hadvance.before ▸ hadvance.grown, Nat.le_refl _⟩
  made generation hpos hle := by
    rcases Nat.lt_or_ge ledger.session.analyses generation with hnew | hold
    · exact ⟨served, mem_add.2 (Or.inr rfl), hadvance.before ▸ hnew, hle⟩
    · obtain ⟨maker, hmaker, hmakes⟩ := hnumbered.made generation hpos hold
      exact ⟨maker, mem_add.2 (Or.inl hmaker), hmakes⟩

theorem Current.add (hcurrent : ledger.Current) (hnumbered : ledger.Numbered)
    (hadvance : ledger.Advance served) : (ledger.add served).Current where
  keyed key project hstored := by
    rcases hadvance.stored hstored with ⟨hstored, -⟩ | ⟨-, hkey⟩
    · exact hcurrent.keyed key project hstored
    · exact hkey
  stored key project hstored := by
    rcases hadvance.stored hstored with ⟨hstored, -⟩ | ⟨hgot, -⟩
    · obtain ⟨hpos, hle⟩ := hcurrent.stored key project hstored
      exact ⟨hpos, Nat.le_trans hle hadvance.grown⟩
    · rcases hadvance.generation hgot with ⟨hle, hlt⟩ | ⟨owner, howner, hsame⟩
      · exact ⟨Nat.zero_lt_of_lt hlt, hle⟩
      · obtain ⟨hpos, hle⟩ := hcurrent.stored _ owner howner
        exact ⟨hsame ▸ hpos, hsame ▸ Nat.le_trans hle hadvance.grown⟩
  given other hother project hgot := by
    rcases mem_add.1 hother with hother | rfl
    · exact hcurrent.given other hother project hgot
    · rcases hadvance.generation hgot with ⟨hle, -⟩ | ⟨owner, howner, hsame⟩
      · exact hle
      · exact hsame ▸ Nat.le_trans (hcurrent.stored _ owner howner).2 hadvance.grown
  kept other hother project hgot := by
    rcases mem_add.1 hother with hother | rfl
    · have hbounded := (hnumbered.bounded other hother).2
      obtain ⟨known, hknown, hgeneration⟩ := hcurrent.kept other hother project hgot
      obtain ⟨now, hnow, hlater⟩ := hadvance.kept hknown
      refine ⟨now, hnow, ?_⟩
      rcases hlater with hsame | hlater
      · rwa [← hsame]
      · exact Or.inr (Nat.lt_of_le_of_lt hbounded hlater)
    · exact ⟨project, hadvance.given hgot, Or.inl rfl⟩

/-- What a past request got has no analysis later than the session has. -/
theorem Lawful.given_le (hlawful : ledger.Lawful) {other : Handled σ α}
    (hother : other ∈ ledger.past) {project : Project α} (hgot : other.outcome = .ok project) :
    project.generation ≤ ledger.session.analyses :=
  calc
    project.generation ≤ other.after.analyses :=
      hlawful.current.given other hother project hgot
    _ ≤ ledger.session.analyses := (hlawful.numbered.bounded other hother).2

theorem Lawful.marked_add (hlawful : ledger.Lawful) (hadvance : ledger.Advance served) :
    (ledger.add served).Marked := by
  intro key project hstored file
  have hpast : ∀ other ∈ ledger.past, ∀ got : Project α, other.Gets file got →
      got.generation ≤ ledger.session.analyses :=
    fun _ hother _ hgets => hlawful.given_le hother hgets.1
  rcases hadvance.stored hstored with ⟨hstored, hother⟩ | ⟨hgot, hkey⟩
  · -- The project is as it was, and this request got another one.
    rw [hlawful.marked key project hstored file]
    constructor
    · rintro ⟨other, hmem, hfound⟩
      exact ⟨other, mem_add.2 (Or.inl hmem), hfound⟩
    · rintro ⟨other, hmem, got, hgets, hsame, hgeneration⟩
      rcases mem_add.1 hmem with hmem | rfl
      · exact ⟨other, hmem, got, hgets, hsame, hgeneration⟩
      · exact absurd (Setoid.symm hsame) (hother got hgets.1)
  · have hself : served.task.file ≈ file →
        ∃ other ∈ (ledger.add served).past, ∃ got, other.Gets file got ∧
          got.projectFile ≈ key ∧ got.generation = project.generation := fun hfile =>
      ⟨served, mem_add.2 (Or.inr rfl), project, ⟨hgot, hfile⟩, Setoid.symm hkey, rfl⟩
    cases hadvance with
    | failed _ houtcome => exact absurd hgot (houtcome project)
    | rebuilt _ houtcome _ hgeneration _ hcompiled =>
        cases houtcome.symm.trans hgot
        rw [hcompiled]
        refine ⟨fun hfile => hself (Setoid.symm hfile), ?_⟩
        rintro ⟨other, hmem, got, hgets, -, hsame⟩
        rcases mem_add.1 hmem with hmem | rfl
        · -- No request of the past can have got an analysis that is only made now.
          have hle := hpast other hmem got hgets
          omega
        · exact Setoid.symm hgets.2
    | reused _ houtcome _ howner hgeneration _ _ hcompiled =>
        cases houtcome.symm.trans hgot
        rw [hcompiled, hlawful.marked _ _ howner file]
        constructor
        · rintro (hfile | ⟨other, hmem, got, hgets, hsame, hgeneration'⟩)
          · exact hself (Setoid.symm hfile)
          · exact ⟨other, mem_add.2 (Or.inl hmem), got, hgets,
              Setoid.trans hsame (Setoid.symm hkey), hgeneration'.trans hgeneration.symm⟩
        · rintro ⟨other, hmem, got, hgets, hsame, hgeneration'⟩
          rcases mem_add.1 hmem with hmem | rfl
          · exact Or.inr ⟨other, hmem, got, hgets, Setoid.trans hsame hkey,
              hgeneration'.trans hgeneration⟩
          · exact Or.inl (Setoid.symm hgets.2)

theorem Lawful.increasing_add (hlawful : ledger.Lawful) (hadvance : ledger.Advance served) :
    (ledger.add served).Increasing := by
  refine pairwise_add.2 ⟨hlawful.increasing, fun earlier hearlier => ?_⟩
  rintro file first second hfirst hsecond hsame
  have hle := hlawful.given_le hearlier hfirst.1
  cases hadvance with
  | failed _ houtcome => exact absurd hsecond.1 (houtcome second)
  | rebuilt _ houtcome _ hgeneration =>
      cases houtcome.symm.trans hsecond.1
      omega
  | @reused _ owner _ houtcome _ howner hgeneration _ hfresh =>
      cases houtcome.symm.trans hsecond.1
      obtain ⟨now, hnow, hlater⟩ := hlawful.current.kept earlier hearlier first hfirst.1
      rw [Store.get?_congr _ hsame, howner] at hnow
      cases hnow
      rw [hgeneration]
      rcases hlater with hequal | hlater
      · -- The owner would count as having compiled the file, and would not be reused.
        have hfile : served.task.file ≈ file := hsecond.2
        have hcompiled : owner.isCompiled served.task.file = true :=
          (hlawful.marked _ _ howner _).2
            ⟨earlier, hearlier, first, ⟨hfirst.1, Setoid.trans hfirst.2 (Setoid.symm hfile)⟩,
              hsame, hequal⟩
        rw [hfresh] at hcompiled
        cases hcompiled
      · exact Nat.lt_of_le_of_lt (hlawful.current.given earlier hearlier first hfirst.1) hlater

theorem Lawful.owned_add (hlawful : ledger.Lawful) (hadvance : ledger.Advance served) :
    (ledger.add served).Owned := by
  -- A stored project that shares its analysis with what the request got has its key.
  have hshared : ∀ got, served.outcome = .ok got → ∀ key project,
      ledger.session.store.get? key = some project →
      got.generation = project.generation → got.projectFile ≈ key := by
    intro got hgot key project hstored hequal
    rcases hadvance.generation hgot with ⟨-, hlt⟩ | ⟨owner, howner, hsame⟩
    · have hle := (hlawful.current.stored key project hstored).2
      omega
    · exact hlawful.owned.stored _ _ owner project howner hstored (hsame ▸ hequal)
  have hgiven : ∀ other ∈ ledger.past, ∀ got, other.outcome = .ok got →
      ∀ project, served.outcome = .ok project → got.generation = project.generation →
      got.projectFile ≈ project.projectFile := by
    intro other hother got hgot project hproject hequal
    rcases hadvance.generation hproject with ⟨-, hlt⟩ | ⟨owner, howner, hsame⟩
    · have hle := hlawful.given_le hother hgot
      omega
    · exact hlawful.owned.past other hother got hgot _ owner howner (hequal.trans hsame)
  refine ⟨?_, ?_, ?_⟩
  · intro left right first second hleft hright hequal
    rcases hadvance.stored hleft with ⟨hleft, -⟩ | ⟨hgotLeft, hleft⟩ <;>
      rcases hadvance.stored hright with ⟨hright, -⟩ | ⟨hgotRight, hright⟩
    · exact hlawful.owned.stored left right first second hleft hright hequal
    · exact Setoid.symm
        (Setoid.trans hright (hshared second hgotRight left first hleft hequal.symm))
    · exact Setoid.trans hleft (hshared first hgotLeft right second hright hequal)
    · cases hgotLeft.symm.trans hgotRight
      exact Setoid.trans hleft (Setoid.symm hright)
  · intro other hother got hgot key project hstored hequal
    rcases mem_add.1 hother with hother | rfl <;>
      rcases hadvance.stored hstored with ⟨hstored, -⟩ | ⟨hproject, hkey⟩
    · exact hlawful.owned.past other hother got hgot key project hstored hequal
    · exact Setoid.trans (hgiven other hother got hgot project hproject hequal)
        (Setoid.symm hkey)
    · exact hshared got hgot key project hstored hequal
    · cases hgot.symm.trans hproject
      exact Setoid.symm hkey
  · refine pairwise_add.2 ⟨hlawful.owned.given, fun earlier hearlier => ?_⟩
    intro first second hfirst hsecond hequal
    exact hgiven earlier hearlier first hfirst second hsecond hequal

theorem Lawful.checked_serve (hlawful : ledger.Lawful) (host : Host σ α)
    (kinds : SourceKinds) (arrival : Arrival σ) :
    (ledger.serve host kinds arrival).Checked := by
  intro handled hmem generation hmakes
  rcases mem_add.1 hmem with hmem | rfl
  · exact hlawful.checked handled hmem generation hmakes
  · exact checks_next_of_makes hmakes

/-- What one request preserves. -/
theorem Lawful.serve (hlawful : ledger.Lawful) (host : Host σ α) (kinds : SourceKinds)
    (arrival : Arrival σ) : (ledger.serve host kinds arrival).Lawful :=
  have hadvance := advance_next host kinds hlawful.current.keyed arrival
  { checked := hlawful.checked_serve host kinds arrival
    numbered := hlawful.numbered.add hadvance
    current := hlawful.current.add hlawful.numbered hadvance
    marked := hlawful.marked_add hadvance
    increasing := hlawful.increasing_add hadvance
    owned := hlawful.owned_add hadvance }

/-- What a run of requests preserves. -/
theorem Lawful.foldl (hlawful : ledger.Lawful) (host : Host σ α) (kinds : SourceKinds)
    (arrivals : List (Arrival σ)) : (arrivals.foldl (Ledger.serve host kinds) ledger).Lawful := by
  induction arrivals generalizing ledger with
  | nil => exact hlawful
  | cons arrival rest ih => exact ih (hlawful.serve host kinds arrival)

theorem lawful_run (host : Host σ α) (kinds : SourceKinds) (world : σ)
    (arrivals : List (Arrival σ)) : (run host kinds world arrivals).Lawful :=
  (lawful_start world).foldl host kinds arrivals

end Ledger

end CompileServer
