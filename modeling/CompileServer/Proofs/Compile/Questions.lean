import CompileServer.Proofs.Compile.Ledger

/-!
# Questions to the host

What a request may ask of the host follows from the decision about it.  Only a project
that is made is asked about, the seed spares every question that it answers, and a
request that is refused or served by the project at hand asks nothing.
-/

namespace CompileServer

variable {σ α : Type}

/-- The questions that making a project may raise. -/
def Seed.Leaves (seed : Seed) (task : CompileTask) (project : Path) : HostCall α → Prop
  | .deriveOptions defines file =>
    seed.options = Option.none ∧ defines = task.defines ∧ file = project
  | .findRuntime file => seed.runtimeFolder = Option.none ∧ file = project
  | .check _ => True
  | .describe _ => True
  | .save _ _ _ => True
  | .transform _ _ _ => False
  | .generate _ _ _ => False
  | .loadPlugins _ => False

namespace Work

/-- Between two sessions, only allowed calls were written down. -/
def Asks (allowed : HostCall α → Prop) (before after : Session (Recorded σ α) α) : Prop :=
  ∃ asked, after.world.calls = before.world.calls ++ asked ∧ ∀ call ∈ asked, allowed call

theorem Asks.refl (allowed : HostCall α → Prop) (session : Session (Recorded σ α) α) :
    Asks allowed session session :=
  ⟨[], (List.append_nil _).symm, fun _ hcall => absurd hcall List.not_mem_nil⟩

theorem Asks.trans {allowed : HostCall α → Prop} {a b c : Session (Recorded σ α) α}
    (hab : Asks allowed a b) (hbc : Asks allowed b c) : Asks allowed a c := by
  obtain ⟨first, hfirst, hallowed⟩ := hab
  obtain ⟨second, hsecond, hallowedToo⟩ := hbc
  refine ⟨first ++ second, ?_, ?_⟩
  · rw [hsecond, hfirst, List.append_assoc]
  · intro call hcall
    rcases List.mem_append.1 hcall with hcall | hcall
    · exact hallowed call hcall
    · exact hallowedToo call hcall

theorem asks_note {β : Type} {allowed : HostCall α → Prop} {call : HostCall α}
    (hallowed : allowed call) (answer : σ → β × σ) (session : Session (Recorded σ α) α) :
    Asks allowed session
      { session with world := (Recorded.note call answer session.world).2 } := by
  refine ⟨[call], rfl, ?_⟩
  intro other hother
  rw [List.mem_singleton.1 hother]
  exact hallowed

theorem respects_asks (host : Host σ α) (task : CompileTask) (project : Path)
    (seed : Seed) :
    Respects host.recorded task project seed (Asks (seed.Leaves task project)) where
  refl := Asks.refl _
  trans := Asks.trans
  deriveOptions hseed := asks_note ⟨hseed, rfl, rfl⟩ _
  findRuntime hseed := asks_note ⟨hseed, rfl⟩ _
  check options := by
    unfold Work.check
    refine Keeps.bind Asks.trans (Keeps.attempt ?_) ?_
    · exact asks_note trivial (host.check options)
    · intro found session
      exact ⟨[], (List.append_nil _).symm, fun _ hcall => absurd hcall List.not_mem_nil⟩
  describe _ := asks_note trivial _
  save _ _ _ := asks_note trivial _
  writeLog _ := Asks.refl _

/-- The calls that resolving a request makes. -/
theorem asks_resolve (host : Host σ α) (kinds : SourceKinds) (task : CompileTask)
    (session : Session (Recorded σ α) α) :
    Asks (fun call => ∃ project seed,
        session.store.Decides kinds task.file (.rebuild project seed) ∧
        seed.Leaves task project call)
      session (resolve host.recorded kinds task session).2 := by
  have hdecided := session.store.decides_decide kinds task.file
  obtain ⟨store, hafter⟩ := resolve_session host.recorded kinds task session
  rw [hafter]
  cases hdecision : session.store.decide kinds task.file with
  | rebuild project seed =>
      rw [hdecision] at hdecided
      obtain ⟨asked, hcalls, hallowed⟩ :=
        (respects_asks host task project seed).createProject session
      exact ⟨asked, hcalls, fun call hcall => ⟨project, seed, hdecided, hallowed call hcall⟩⟩
  | reuse project => exact Asks.refl _ session
  | refuse error => exact Asks.refl _ session

end Work

namespace Store

variable {store : Store α} {kinds : SourceKinds} {file : Path} {task : CompileTask}

/-- The file is not served by a project that lists it, but has or makes one of its own. -/
structure StandsAlone (store : Store α) (kinds : SourceKinds) (file : Path) : Prop where
  kind : kinds.classify file = .project ∨ kinds.classify file = .script
  free : kinds.classify file = .script → store.get? file = none → store.findOwner file = none

/-- Options are only derived for the file of the request itself, and only if that file
stands alone. -/
theorem Decides.derives {project : Path} {seed : Seed} {defines : List String}
    {asked : Path} (hdecided : store.Decides kinds file (.rebuild project seed))
    (hleaves : seed.Leaves (α := α) task project (.deriveOptions defines asked)) :
    defines = task.defines ∧ asked = file ∧ store.StandsAlone kinds file := by
  obtain ⟨hseed, hdefines, hasked⟩ := hleaves
  cases hdecided with
  | own hkind hfree => exact ⟨hdefines, hasked, hkind, hfree⟩
  | watch => cases hseed

/-- The runtime folder is only looked for if there is no project yet. -/
theorem Decides.finds {project : Path} {seed : Seed} {asked : Path}
    (hdecided : store.Decides kinds file (.rebuild project seed))
    (hleaves : seed.Leaves (α := α) task project (.findRuntime asked)) :
    asked = file ∧ store.get? file = none := by
  obtain ⟨hseed, hasked⟩ := hleaves
  cases hdecided with
  | own => exact ⟨hasked, Option.map_eq_none_iff.1 hseed⟩
  | watch => cases hseed

end Store

end CompileServer
