import CompileServer.Compile.Serving

/-!
# Steps of work

Work on a request is a chain of steps on a session.  A chain that ends in a value went
through a value at every step, and a chain that ends in a fault stopped at the first
step that failed.  What all steps leave alone, the chain leaves alone.
-/

namespace CompileServer

namespace Work

variable {σ α β γ ε : Type}

theorem get_apply (session : Session σ α) :
    (get : Work σ α (Session σ α)) session = (.ok session, session) := rfl

theorem modify_apply (change : Session σ α → Session σ α) (session : Session σ α) :
    (modify change : Work σ α PUnit) session = (.ok ⟨⟩, change session) := rfl

theorem writeLog_apply (change : Log → Log) (session : Session σ α) :
    writeLog change session = (.ok ⟨⟩, { session with log := change session.log }) := rfl

theorem bind_of_ok {τ : Type} {work : ExceptT ε (StateM τ) β}
    {next : β → ExceptT ε (StateM τ) γ} {before middle : τ} {value : β}
    (hwork : work before = (.ok value, middle)) :
    (work >>= next) before = next value middle := by
  change ExceptT.bindCont next (work before).1 (work before).2 = _
  rw [hwork]
  rfl

theorem bind_of_error {τ : Type} {work : ExceptT ε (StateM τ) β}
    {next : β → ExceptT ε (StateM τ) γ} {before after : τ} {fault : ε}
    (hwork : work before = (.error fault, after)) :
    (work >>= next) before = (.error fault, after) := by
  change ExceptT.bindCont next (work before).1 (work before).2 = _
  rw [hwork]
  rfl

/-- A chain that gives a value got one from its first step. -/
theorem bind_eq_ok {τ : Type} {work : ExceptT ε (StateM τ) β}
    {next : β → ExceptT ε (StateM τ) γ} {before after : τ} {value : γ}
    (hchain : (work >>= next) before = (.ok value, after)) :
    ∃ first middle, work before = (.ok first, middle) ∧
      next first middle = (.ok value, after) := by
  cases hwork : work before with
  | mk outcome middle =>
      cases outcome with
      | ok first =>
          rw [bind_of_ok hwork] at hchain
          exact ⟨first, middle, rfl, hchain⟩
      | error fault =>
          rw [bind_of_error hwork] at hchain
          cases hchain

/-- What became of a call that a request made of the host. -/
def verdict (refuse : ε → CompileError) : Except Panic (Except ε β) → Except Fault β
  | .ok (.ok value) => .ok value
  | .ok (.error reason) => .error (.rejected (refuse reason))
  | .error panic => .error (.panicked panic)

theorem verdict_eq_ok {refuse : ε → CompileError} {answer : Except Panic (Except ε β)}
    {value : β} (hverdict : verdict refuse answer = .ok value) : answer = .ok (.ok value) := by
  match answer, hverdict with
  | .ok (.ok _), rfl => rfl

theorem attempt_apply (refuse : ε → CompileError) (call : CompileServer.Call σ (Except ε β))
    (session : Session σ α) :
    attempt refuse call session =
      (verdict refuse (call session.world).1,
        { session with world := (call session.world).2 }) := by
  have hcall : Work.call call session =
      match (call session.world).1 with
      | .ok value => (.ok value, { session with world := (call session.world).2 })
      | .error panic =>
        (.error (.panicked panic), { session with world := (call session.world).2 }) := by
    unfold Work.call
    rcases call session.world with ⟨_ | _, _⟩ <;> rfl
  unfold attempt
  rcases hanswer : (call session.world).1 with panic | (reason | value)
  all_goals rw [hanswer] at hcall
  · exact bind_of_error hcall
  · exact bind_of_ok hcall
  · exact bind_of_ok hcall

/-- An attempt that gives a value asked the host for it. -/
theorem attempt_eq_ok {refuse : ε → CompileError} {call : CompileServer.Call σ (Except ε β)}
    {before after : Session σ α} {value : β}
    (hattempt : attempt refuse call before = (.ok value, after)) :
    ∃ world, call before.world = (.ok (.ok value), world) ∧
      after = { before with world := world } := by
  rw [attempt_apply] at hattempt
  obtain ⟨hverdict, rfl⟩ := Prod.mk.inj hattempt
  exact ⟨(call before.world).2, Prod.ext (verdict_eq_ok hverdict) rfl, rfl⟩

/-- Whatever becomes of the work, the session after it stands in a relation to the one
before. -/
def Keeps (relation : Session σ α → Session σ α → Prop) (work : Work σ α β) : Prop :=
  ∀ session, relation session (work session).2

theorem Keeps.bind {relation : Session σ α → Session σ α → Prop} {work : Work σ α β}
    {next : β → Work σ α γ} (htrans : ∀ {a b c}, relation a b → relation b c → relation a c)
    (hwork : Keeps relation work) (hnext : ∀ value, Keeps relation (next value)) :
    Keeps relation (work >>= next) := by
  intro session
  have hfirst := hwork session
  cases hrun : work session with
  | mk outcome middle =>
      rw [hrun] at hfirst
      cases outcome with
      | ok value =>
          rw [bind_of_ok hrun]
          exact htrans hfirst (hnext value middle)
      | error fault =>
          rw [bind_of_error hrun]
          exact hfirst

theorem Keeps.attempt {relation : Session σ α → Session σ α → Prop}
    {refuse : ε → CompileError} {call : CompileServer.Call σ (Except ε β)}
    (hcall : ∀ session : Session σ α,
      relation session { session with world := (call session.world).2 }) :
    Keeps relation (attempt refuse call : Work σ α β) := by
  intro session
  rw [attempt_apply]
  exact hcall session

theorem Keeps.call {relation : Session σ α → Session σ α → Prop}
    {call : CompileServer.Call σ β}
    (hcall : ∀ session : Session σ α,
      relation session { session with world := (call session.world).2 }) :
    Keeps relation (Work.call call : Work σ α β) := by
  intro session
  have hkept := hcall session
  unfold Work.call
  rcases hanswer : call session.world with ⟨_ | _, world⟩ <;>
    simpa only [hanswer] using hkept

theorem Keeps.writeLog {relation : Session σ α → Session σ α → Prop} {change : Log → Log}
    (hlog : ∀ (change : Log → Log) (session : Session σ α),
      relation session { session with log := change session.log }) :
    Keeps relation (Work.writeLog change) :=
  hlog change

end Work

end CompileServer
