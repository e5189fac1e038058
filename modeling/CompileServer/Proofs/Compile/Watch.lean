import CompileServer.Proofs.Compile.Ledger
import CompileServer.Proofs.Compile.Sample

/-!
# Watch mode

Asking for a file a second time says that it changed, so the server checks the project
again.  Over a whole run this comes to a law: a file counts as compiled exactly if it
was served since the current analysis was made, a request for such a file costs one
check, any other request for a source file costs none, and no file is ever translated
twice against the same analysis.
-/

namespace CompileServer.Ledger

variable {σ α : Type}

/-- What watch mode promises about the requests of a ledger and about the next one. -/
structure WatchLaw (host : Host σ α) (kinds : SourceKinds) (ledger : Ledger σ α) : Prop where
  /-- The analysis of a stored project was made for exactly one request. -/
  made_once : ∀ key project, ledger.session.store.get? key = some project →
    ∃ first, ∀ position, ledger.MadeAt position project.generation ↔ position = first
  /-- An analysis is only made for a request that had a project checked. -/
  made_checked : ∀ maker ∈ ledger.past, ∀ generation, maker.Makes generation →
    maker.after.world.checks ≠ []
  /-- A file counts as compiled exactly if some request for it got the project at or after
  that request. -/
  compiled_iff : ∀ key project, ledger.session.store.get? key = some project →
    ∀ file, project.isCompiled file = true ↔ ledger.CompiledSince project file
  /-- A request for a source file that counts as compiled has its project checked, with the
  options it has, exactly once. -/
  checked_once : ∀ arrival owner, kinds.classify arrival.task.file = .source →
    ledger.session.store.findOwner arrival.task.file = some owner →
    ledger.CompiledSince owner arrival.task.file →
    (ledger.next host kinds arrival).after.world.checks = [owner.options]
  /-- A request for any other source file of a project asks the host for nothing. -/
  unchecked : ∀ arrival owner, kinds.classify arrival.task.file = .source →
    ledger.session.store.findOwner arrival.task.file = some owner →
    ¬ ledger.CompiledSince owner arrival.task.file →
    (ledger.next host kinds arrival).after.world.calls = []
  /-- Of two requests for one file that get one project, the later one gets it with a
  greater generation. -/
  later : ∀ (i j : Nat) (earlier later : Handled σ α) file first second, i < j →
    ledger.past[i]? = some earlier → ledger.past[j]? = some later →
    earlier.Gets file first → later.Gets file second →
    first.projectFile ≈ second.projectFile → first.generation < second.generation
  /-- No two requests for one file get the same analysis, whatever project it is of. -/
  never_twice : ∀ (i j : Nat) (earlier later : Handled σ α) file first second, i < j →
    ledger.past[i]? = some earlier → ledger.past[j]? = some later →
    earlier.Gets file first → later.Gets file second →
    first.generation ≠ second.generation

variable {ledger : Ledger σ α}

theorem pairwise_at {relation : Handled σ α → Handled σ α → Prop}
    (hpairwise : ledger.past.Pairwise relation) {i j : Nat} {earlier later : Handled σ α}
    (hlt : i < j) (hearlier : ledger.past[i]? = some earlier)
    (hlater : ledger.past[j]? = some later) : relation earlier later := by
  obtain ⟨hi, rfl⟩ := List.getElem?_eq_some_iff.1 hearlier
  obtain ⟨hj, rfl⟩ := List.getElem?_eq_some_iff.1 hlater
  exact List.pairwise_iff_getElem.1 hpairwise i j hi hj hlt

/-- The numbers that a request gave end before those of a later request start. -/
theorem Numbered.after_le (hnumbered : ledger.Numbered) {i j : Nat}
    {earlier later : Handled σ α} (hle : i ≤ j) (hearlier : ledger.past[i]? = some earlier)
    (hlater : ledger.past[j]? = some later) :
    earlier.after.analyses ≤ later.after.analyses := by
  rcases Nat.lt_or_eq_of_le hle with hlt | rfl
  · calc
      earlier.after.analyses ≤ later.before.analyses :=
        pairwise_at hnumbered.ordered hlt hearlier hlater
      _ ≤ later.after.analyses := (hnumbered.bounded later (List.mem_of_getElem? hlater)).1
  · cases hearlier.symm.trans hlater
    exact Nat.le_refl _

/-- A request after the one that made an analysis does not make it again. -/
theorem Numbered.le_of_makes (hnumbered : ledger.Numbered) {generation i j : Nat}
    {maker served : Handled σ α} (hmaker : ledger.past[i]? = some maker)
    (hmakes : maker.Makes generation) (hserved : ledger.past[j]? = some served)
    (hreached : generation ≤ served.after.analyses) : i ≤ j := by
  rcases Nat.lt_or_ge j i with hlt | hle
  · have hold : generation ≤ maker.before.analyses :=
      calc
        generation ≤ served.after.analyses := hreached
        _ ≤ maker.before.analyses := pairwise_at hnumbered.ordered hlt hserved hmaker
    exact absurd hold (Nat.not_le.2 hmakes.1)
  · exact hle

theorem Numbered.made_once (hnumbered : ledger.Numbered) {generation : Nat}
    (hpos : 0 < generation) (hle : generation ≤ ledger.session.analyses) :
    ∃ first, ∀ position, ledger.MadeAt position generation ↔ position = first := by
  obtain ⟨maker, hmem, hmakes⟩ := hnumbered.made generation hpos hle
  obtain ⟨first, hmaker⟩ := List.mem_iff_getElem?.1 hmem
  refine ⟨first, fun position => ⟨?_, ?_⟩⟩
  · rintro ⟨other, hother, hmakesToo⟩
    exact Nat.le_antisymm (hnumbered.le_of_makes hother hmakesToo hmaker hmakes.2)
      (hnumbered.le_of_makes hmaker hmakes hother hmakesToo.2)
  · rintro rfl
    exact ⟨maker, hmaker, hmakes⟩

/-- The mark on a file says that the file was served since the project was checked. -/
theorem Lawful.isCompiled_iff (hlawful : ledger.Lawful) {key : Path} {project : Project α}
    (hstored : ledger.session.store.get? key = some project) (file : Path) :
    project.isCompiled file = true ↔ ledger.CompiledSince project file := by
  have hkey := hlawful.current.keyed key project hstored
  rw [hlawful.marked key project hstored file]
  constructor
  · rintro ⟨served, hserved, got, hgets, hproject, hgeneration⟩
    obtain ⟨hpos, hle⟩ := hlawful.current.stored key project hstored
    obtain ⟨maker, hmaker, hmakes⟩ := hlawful.numbered.made _ hpos hle
    obtain ⟨first, hfirst⟩ := List.mem_iff_getElem?.1 hmaker
    obtain ⟨later, hlater⟩ := List.mem_iff_getElem?.1 hserved
    have hreached := hlawful.current.given served hserved got hgets.1
    rw [hgeneration] at hreached
    have hle := hlawful.numbered.le_of_makes hfirst hmakes hlater hreached
    exact ⟨first, later, ⟨maker, hfirst, hmakes⟩, hle, served, got, hlater, hgets,
      Setoid.trans hproject hkey⟩
  · rintro ⟨first, later, ⟨maker, hfirst, hmakes⟩, hle, served, got, hlater, hgets, hproject⟩
    have hserved := List.mem_of_getElem? hlater
    have hsame := Setoid.trans hproject (Setoid.symm hkey)
    obtain ⟨now, hnow, hgeneration⟩ := hlawful.current.kept served hserved got hgets.1
    rw [Store.get?_congr _ hsame, hstored] at hnow
    cases hnow
    have hreached : project.generation ≤ served.after.analyses :=
      calc
        project.generation ≤ maker.after.analyses := hmakes.2
        _ ≤ served.after.analyses := hlawful.numbered.after_le hle hfirst hlater
    exact ⟨served, hserved, got, hgets, hsame,
      hgeneration.resolve_right (Nat.not_lt.2 hreached)⟩

/-- A request for a source file of a project has the project made again, with the options
it has, or asks the host for nothing. -/
theorem next_world_of_source (host : Host σ α) {kinds : SourceKinds}
    {arrival : Arrival σ} {owner : Project α}
    (hsource : kinds.classify arrival.task.file = .source)
    (howner : ledger.session.store.findOwner arrival.task.file = some owner) :
    (ledger.next host kinds arrival).after.world =
      if owner.isCompiled arrival.task.file then
        (Work.createProject host.recorded arrival.task owner.projectFile (.watch owner)
          (ledger.opened arrival)).2.world
      else ⟨arrival.world, []⟩ := by
  obtain ⟨store, hafter⟩ :=
    Work.resolve_session host.recorded kinds arrival.task (ledger.opened arrival)
  have hstore : (ledger.opened arrival).store = ledger.session.store := rfl
  have hdecision := Store.decide_source hsource howner
  simp only [hstore, hdecision] at hafter
  change (Work.resolve _ _ _ (ledger.opened arrival)).2.world = _
  rw [hafter]
  by_cases hcompiled : owner.isCompiled arrival.task.file = true
  · simp only [if_pos hcompiled]
  · simp only [if_neg hcompiled]
    rfl

theorem checks_next_of_compiled (host : Host σ α) {kinds : SourceKinds}
    {arrival : Arrival σ} {owner : Project α}
    (hsource : kinds.classify arrival.task.file = .source)
    (howner : ledger.session.store.findOwner arrival.task.file = some owner)
    (hcompiled : owner.isCompiled arrival.task.file = true) :
    (ledger.next host kinds arrival).after.world.checks = [owner.options] := by
  rw [next_world_of_source host hsource howner, if_pos hcompiled,
    Work.checks_createProject_watch]
  rfl

theorem calls_next_of_not_compiled (host : Host σ α) {kinds : SourceKinds}
    {arrival : Arrival σ} {owner : Project α}
    (hsource : kinds.classify arrival.task.file = .source)
    (howner : ledger.session.store.findOwner arrival.task.file = some owner)
    (hfresh : ¬ owner.isCompiled arrival.task.file = true) :
    (ledger.next host kinds arrival).after.world.calls = [] := by
  rw [next_world_of_source host hsource howner, if_neg hfresh]

/-- Every run of requests keeps to the law of watch mode. -/
theorem watchLaw_run (host : Host σ α) (kinds : SourceKinds) (world : σ)
    (arrivals : List (Arrival σ)) : (run host kinds world arrivals).WatchLaw host kinds := by
  have hlawful := lawful_run host kinds world arrivals
  exact {
    made_once := fun key project hstored =>
      have hstored := hlawful.current.stored key project hstored
      hlawful.numbered.made_once hstored.1 hstored.2
    made_checked := hlawful.checked
    compiled_iff := fun _ _ hstored file => hlawful.isCompiled_iff hstored file
    checked_once := by
      intro arrival owner hsource howner hsince
      obtain ⟨-, key, hstored⟩ := Store.findOwner_eq_some howner
      have hcompiled := (hlawful.isCompiled_iff hstored _).2 hsince
      exact checks_next_of_compiled host hsource howner hcompiled
    unchecked := by
      intro arrival owner hsource howner hnever
      obtain ⟨-, key, hstored⟩ := Store.findOwner_eq_some howner
      have hfresh := mt (hlawful.isCompiled_iff hstored _).1 hnever
      exact calls_next_of_not_compiled host hsource howner hfresh
    later := by
      intro i j earlier later file first second hlt hearlier hlater
      exact pairwise_at hlawful.increasing hlt hearlier hlater file first second
    never_twice := by
      intro i j earlier later file first second hlt hearlier hlater hfirst hsecond hequal
      have hsame := pairwise_at hlawful.owned.given hlt hearlier hlater first second
        hfirst.1 hsecond.1 hequal
      have hless := pairwise_at hlawful.increasing hlt hearlier hlater file first second
        hfirst hsecond hsame
      exact absurd hequal (Nat.ne_of_lt hless) }

/-- Both files of a project are asked for, and the first one again after a change. -/
def changedFile : List (Arrival Unit) :=
  [Sample.manifest, Sample.firstFile, Sample.secondFile, Sample.firstFile].map (Sample.arrival · [])

/-- The request after the change is the one that costs a check, and from then on only the file
that it is for counts as compiled. -/
theorem watchLaw_changedFile :
    let ledger := run Sample.host .standard () changedFile
    (ledger.past.map fun handled => handled.after.world.checks.length) = [1, 0, 0, 1] ∧
      (ledger.session.store.projects.map fun project => (project.generation, project.compiled)) =
        [(2, [Sample.firstFile])] ∧
      ledger.WatchLaw Sample.host .standard := by
  intro ledger
  have hseen : (ledger.past.map fun handled => handled.after.world.checks.length) =
        [1, 0, 0, 1] ∧
      (ledger.session.store.projects.map fun project => (project.generation, project.compiled)) =
        [(2, [Sample.firstFile])] := by
    decide +kernel
  exact ⟨hseen.1, hseen.2, watchLaw_run Sample.host .standard () changedFile⟩

end CompileServer.Ledger
