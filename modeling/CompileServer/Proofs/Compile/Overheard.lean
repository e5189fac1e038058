import CompileServer.Proofs.Compile.Views

/-!
# Overheard hosts

An overheard host answers like the host it stands for and keeps a transcript: every
question of the server with the answer to it, oldest first.  What a request learned from
the collaborators, and what it logged because of that, can be read off its transcript.
-/

namespace CompileServer

/-- A question of the server, with the answer of the host. -/
inductive Exchange (α : Type) where
  | deriveOptions (defines : List String) (project : Path)
      (answer : Except Panic (Except Causes ProjectOptions))
  | findRuntime (project : Path) (answer : Except Panic (Except Causes (Option Path)))
  | check (options : ProjectOptions)
      (answer : Except Panic (Except Causes (List Diagnostic × α)))
  | describe (analysis : Analysis α) (answer : Except Panic Json)
  | transform (analysis : Analysis α) (task : CompileTask) (log : Log)
      (answer : Except Panic (Except Causes (IntermediateProgram × List LogEntry)))
  | generate (program : IntermediateProgram) (task : CompileTask) (log : Log)
      (answer : Except Panic (Except Causes (TargetProgram × List LogEntry)))
  | loadPlugins (library : Path) (answer : Except Panic (Except PluginError (List Plugin)))
  | save (folder file : Path) (text : String) (answer : Except FileFault Unit)

/-- A world with everything that was said in it, oldest first. -/
structure Overheard (σ α : Type) where
  world : σ
  exchanges : List (Exchange α)

variable {σ α β ε : Type}

/-- Passes a question on and writes down what was said. -/
def Overheard.note (exchange : β → Exchange α) (answer : σ → β × σ)
    (overheard : Overheard σ α) : β × Overheard σ α :=
  ((answer overheard.world).1,
    ⟨(answer overheard.world).2, overheard.exchanges ++ [exchange (answer overheard.world).1]⟩)

/-- The host that keeps a transcript. -/
def Host.overheard (host : Host σ α) : Host (Overheard σ α) α where
  deriveOptions defines project :=
    Overheard.note (.deriveOptions defines project) (host.deriveOptions defines project)
  findRuntime project := Overheard.note (.findRuntime project) (host.findRuntime project)
  check options := Overheard.note (.check options) (host.check options)
  describe analysis := Overheard.note (.describe analysis) (host.describe analysis)
  transform analysis task log :=
    Overheard.note (.transform analysis task log) (host.transform analysis task log)
  generate program task log :=
    Overheard.note (.generate program task log) (host.generate program task log)
  loadPlugins library := Overheard.note (.loadPlugins library) (host.loadPlugins library)
  normalize overheard := host.normalize overheard.world
  save folder file text := Overheard.note (.save folder file text) (host.save folder file text)

theorem Host.through_overheard (host : Host σ α) :
    host.overheard.Through Overheard.world host where
  deriveOptions _ _ _ := rfl
  findRuntime _ _ := rfl
  check _ _ := rfl
  describe _ _ := rfl
  transform _ _ _ _ := rfl
  generate _ _ _ _ := rfl
  loadPlugins _ _ := rfl
  normalize _ := rfl
  save _ _ _ _ := rfl

/-- The session with an empty transcript. -/
def Session.overhear (session : Session σ α) : Session (Overheard σ α) α :=
  ⟨session.store, session.plugins, session.analyses, session.log, ⟨session.world, []⟩⟩

/-- The session without the transcript. -/
def Session.unheard (session : Session (Overheard σ α) α) : Session σ α :=
  session.view Overheard.world

namespace Work

/-- What is said while work is done. -/
def heard (work : Work (Overheard σ α) α β) (session : Session σ α) : List (Exchange α) :=
  (work session.overhear).2.world.exchanges

theorem prepare_eq_overheard (host : Host σ α) (kinds : SourceKinds) (payload : Json)
    (session : Session σ α) :
    prepare host kinds payload session =
      ((prepare host.overheard kinds payload session.overhear).1,
        (prepare host.overheard kinds payload session.overhear).2.unheard) :=
  through_prepare host.through_overheard kinds payload session.overhear

/-- The later session has more in its transcript, and the later log has more entries. -/
def Adds (before after : Session (Overheard σ α) α) (said : List (Exchange α))
    (logged : Log) : Prop :=
  after.world.exchanges = before.world.exchanges ++ said ∧ after.log = before.log ++ logged

theorem Adds.refl (session : Session (Overheard σ α) α) : Adds session session [] [] :=
  ⟨(List.append_nil _).symm, (List.append_nil _).symm⟩

theorem Adds.trans {first middle last : Session (Overheard σ α) α}
    {said more : List (Exchange α)} {logged later : Log} (hfirst : Adds first middle said logged)
    (hlast : Adds middle last more later) :
    Adds first last (said ++ more) (logged ++ later) := by
  constructor
  · rw [hlast.1, hfirst.1, List.append_assoc]
  · rw [hlast.2, hfirst.2, List.append_assoc]

/-- An attempt adds one exchange, whatever becomes of it. -/
theorem attempt_note (refuse : ε → CompileError)
    (exchange : Except Panic (Except ε β) → Exchange α)
    (answer : CompileServer.Call σ (Except ε β)) (session : Session (Overheard σ α) α) :
    (attempt refuse (Overheard.note exchange answer) session).1 =
        verdict refuse (answer session.world.world).1 ∧
      Adds session (attempt refuse (Overheard.note exchange answer) session).2
        [exchange (answer session.world.world).1] [] := by
  rw [attempt_apply]
  exact ⟨rfl, rfl, (List.append_nil _).symm⟩

/-- An attempt that gives a value heard it from the host. -/
theorem attempt_note_eq_ok {refuse : ε → CompileError}
    {exchange : Except Panic (Except ε β) → Exchange α}
    {answer : CompileServer.Call σ (Except ε β)} {before after : Session (Overheard σ α) α}
    {value : β}
    (hattempt : attempt refuse (Overheard.note exchange answer) before = (.ok value, after)) :
    (answer before.world.world).1 = .ok (.ok value) ∧
      Adds before after [exchange (.ok (.ok value))] [] := by
  obtain ⟨hverdict, hadds⟩ := attempt_note refuse exchange answer before
  rw [hattempt] at hverdict hadds
  have hanswer := verdict_eq_ok hverdict.symm
  rw [hanswer] at hadds
  exact ⟨hanswer, hadds⟩

theorem call_note_eq_ok {exchange : Except Panic β → Exchange α}
    {answer : CompileServer.Call σ β} {before after : Session (Overheard σ α) α} {value : β}
    (hcall : Work.call (Overheard.note exchange answer) before = (.ok value, after)) :
    Adds before after [exchange (.ok value)] [] := by
  unfold Work.call at hcall
  simp only [Overheard.note] at hcall
  rcases hanswer : (answer before.world.world).1 with panic | found
  all_goals
    rw [hanswer] at hcall
    cases hcall
  exact ⟨rfl, (List.append_nil _).symm⟩

theorem save_overheard_eq_ok {host : Host σ α} {folder file : Path} {text : String}
    {before after : Session (Overheard σ α) α} {saved : Except FileFault Unit}
    (hsave : save host.overheard folder file text before = (.ok saved, after)) :
    Adds before after [.save folder file text saved] [] := by
  cases hsave
  exact ⟨rfl, (List.append_nil _).symm⟩

end Work

end CompileServer
