import CompileServer.Proofs.Actor.History

/-!
# Messages that wait

A message that waits in the mailbox has no effect.  Cutting a history off after some
messages, at least as many as are taken, gives a history in which the later ones were
never sent, and every step of the one is a step of the other.
-/

namespace CompileServer

/-- The events without the messages after the first so many. -/
def Event.firstAsks : Nat → List Event → List Event
  | _, [] => []
  | 0, .ask _ :: rest => firstAsks 0 rest
  | count + 1, .ask errand :: rest => .ask errand :: firstAsks count rest
  | count, .cancel :: rest => .cancel :: firstAsks count rest
  | count, .abandon :: rest => .abandon :: firstAsks count rest
  | count, .move step :: rest => .move step :: firstAsks count rest

namespace History

variable {σ α : Type} {host : Host σ α} {kinds : SourceKinds}

/-- The history as it is without the messages after the first so many. -/
def upTo (history : History σ α) (count : Nat) : History σ α :=
  { history with
    actor := { history.actor with
      mailbox := history.actor.mailbox.take (count - history.taken.length) }
    arrived := history.arrived.take count }

/-- What has arrived was taken or waits. -/
def IsSplit (history : History σ α) : Prop :=
  history.arrived = history.taken ++ history.actor.mailbox

theorem isSplit_start (world : σ) : (start world : History σ α).IsSplit :=
  rfl

variable {before after : History σ α} {event : Event}

theorem IsSplit.step (hsplit : before.IsSplit) (hstep : Step host kinds before event after) :
    after.IsSplit := by
  unfold IsSplit at hsplit ⊢
  cases hstep with
  | asked errand =>
      change before.arrived ++ _ = before.taken ++ (before.actor.mailbox ++ _)
      rw [← List.append_assoc, ← hsplit]
  | rejected htakes | started htakes | shown htakes | told htakes =>
      rw [htakes.waiting] at hsplit
      simpa using hsplit
  | refused | cancelled | abandoned | finished | drained | stopped => exact hsplit

theorem length_taken_le (hstep : Step host kinds before event after) :
    before.taken.length ≤ after.taken.length := by
  cases hstep with
  | rejected | started | shown | told =>
      rw [List.length_append]
      exact Nat.le_add_right _ _
  | refused | asked | cancelled | abandoned | finished | drained | stopped =>
      exact Nat.le_refl _

theorem length_taken_le_run {events : List Event}
    (hrun : before.run? host kinds events = some after) :
    before.taken.length ≤ after.taken.length :=
  run?_preserves (motive := fun history => before.taken.length ≤ history.taken.length)
    (fun hle hstep => Nat.le_trans hle (length_taken_le hstep)) (Nat.le_refl _) hrun

theorem takes_upTo {count : Nat} {message : Message} {rest : List Message}
    (htakes : before.actor.Takes message rest) (hlt : before.taken.length < count) :
    (before.upTo count).actor.Takes message
      (rest.take (count - (before.taken.length + 1))) where
  running := htakes.running
  heeding := htakes.heeding
  waiting := by
    have hsucc : count - before.taken.length = count - (before.taken.length + 1) + 1 := by
      omega
    simp only [upTo, htakes.waiting, hsucc, List.take_succ_cons]

/-- A step without a message is a step of the history cut off. -/
theorem step_upTo {count : Nat} (hstep : Step host kinds before event after)
    (hevent : ∀ errand, event ≠ .ask errand) (hle : after.taken.length ≤ count) :
    Step host kinds (before.upTo count) event (after.upTo count) := by
  cases hstep with
  | refused errand => exact absurd rfl (hevent errand)
  | asked errand => exact absurd rfl (hevent errand)
  | cancelled => exact .cancelled
  | abandoned => exact .abandoned
  | rejected htakes hprepared =>
      rw [List.length_append] at hle
      have hstep := Step.rejected (takes_upTo htakes hle) hprepared
      simpa [upTo] using hstep
  | started htakes hprepared =>
      rw [List.length_append] at hle
      have hstep := Step.started (takes_upTo htakes hle) hprepared
      simpa [upTo] using hstep
  | shown htakes =>
      rw [List.length_append] at hle
      have hstep : Step host kinds _ _ _ := .shown (takes_upTo htakes hle)
      simpa [upTo] using hstep
  | told htakes =>
      rw [List.length_append] at hle
      have hstep : Step host kinds _ _ _ := .told (takes_upTo htakes hle)
      simpa [upTo] using hstep
  | finished hjob hrun => exact .finished hjob hrun
  | drained hrunning hallowed =>
      refine .drained hrunning (hallowed.imp_right fun hempty => ⟨hempty.1, ?_⟩)
      simp only [upTo, hempty.2, List.take_nil]
  | stopped hdraining hidle => exact .stopped hdraining hidle

theorem arrived_step (hstep : Step host kinds before event after)
    (hevent : ∀ errand, event ≠ .ask errand) : after.arrived = before.arrived := by
  cases hstep with
  | refused errand | asked errand => exact absurd rfl (hevent errand)
  | cancelled | abandoned | rejected | started | shown | told | finished | drained
  | stopped => rfl

/-- An actor that is closed stays closed. -/
theorem isOpen_step (hstep : Step host kinds before event after)
    (hopen : after.actor.isOpen = true) : before.actor.isOpen = true := by
  cases hstep with
  | abandoned => simp [Actor.isOpen, Actor.abandon] at hopen
  | drained hrunning => simpa [Actor.isOpen, hrunning] using hopen
  | stopped => simp [Actor.isOpen] at hopen
  | refused | asked | cancelled | rejected | started | shown | told | finished => exact hopen

theorem upTo_eq_self {history : History σ α} {count : Nat} (hsplit : history.IsSplit)
    (hle : history.arrived.length ≤ count) : history.upTo count = history := by
  have hwaiting : history.actor.mailbox.length ≤ count - history.taken.length := by
    rw [hsplit, List.length_append] at hle
    omega
  simp only [upTo, List.take_of_length_le hle, List.take_of_length_le hwaiting]

/-- A message among the first so many is sent to the history cut off as well. -/
theorem step_upTo_ask {count : Nat} {errand : Errand} (hsplit : before.IsSplit)
    (hlt : before.actor.isOpen = true → before.arrived.length < count)
    (hstep : Step host kinds before (.ask errand) after) :
    Step host kinds (before.upTo count) (.ask errand) (after.upTo count) := by
  have hsplitToo := hsplit.step hstep
  cases hstep with
  | refused _ hclosed => exact .refused errand hclosed
  | asked _ hopen =>
      rw [upTo_eq_self hsplit (Nat.le_of_lt (hlt hopen)), upTo_eq_self hsplitToo]
      · exact .asked errand hopen
      · rw [List.length_append]
        exact hlt hopen

/-- A later message is not there in the history cut off. -/
theorem upTo_ask {count : Nat} {errand : Errand} (hsplit : before.IsSplit)
    (hle : before.actor.isOpen = true → count ≤ before.arrived.length)
    (hstep : Step host kinds before (.ask errand) after) :
    after.upTo count = before.upTo count := by
  cases hstep with
  | refused => rfl
  | asked _ hopen =>
      have hle := hle hopen
      have hwaiting : count - before.taken.length ≤ before.actor.mailbox.length := by
        rw [hsplit, List.length_append] at hle
        omega
      simp only [upTo, List.take_append_of_le_length hle,
        List.take_append_of_le_length hwaiting]

theorem length_arrived_ask {errand : Errand} (hopen : before.actor.isOpen = true)
    (hstep : Step host kinds before (.ask errand) after) :
    after.arrived.length = before.arrived.length + 1 := by
  cases hstep with
  | refused _ hclosed =>
      rw [hopen] at hclosed
      cases hclosed
  | asked => rw [List.length_append, List.length_singleton]

theorem firstAsks_cons (count : Nat) {event : Event} (rest : List Event)
    (hevent : ∀ errand, event ≠ .ask errand) :
    Event.firstAsks count (event :: rest) = event :: Event.firstAsks count rest := by
  cases event with
  | ask errand => exact absurd rfl (hevent errand)
  | cancel | abandon | move => cases count <;> rfl

/-- A run without the messages after the first so many, at least as many as it takes. -/
theorem run?_upTo {count asks : Nat} {events : List Event} (hsplit : before.IsSplit)
    (hrun : before.run? host kinds events = some after) (hle : after.taken.length ≤ count)
    (hasks : before.actor.isOpen = true → asks = count - before.arrived.length) :
    (before.upTo count).run? host kinds (Event.firstAsks asks events) =
      some (after.upTo count) := by
  induction events generalizing before asks with
  | nil =>
      cases hrun
      rfl
  | cons event rest ih =>
      obtain ⟨next, hstep, hrest⟩ := run?_cons.1 hrun
      have hnext := hsplit.step hstep
      have htaken := Nat.le_trans (length_taken_le_run hrest) hle
      by_cases hevent : ∀ errand, event ≠ .ask errand
      · rw [firstAsks_cons asks rest hevent, run?_cons]
        refine ⟨_, step_upTo hstep hevent htaken, ih hnext hrest fun hopen => ?_⟩
        rw [arrived_step hstep hevent]
        exact hasks (isOpen_step hstep hopen)
      · obtain ⟨errand, hask⟩ := Classical.not_forall.1 hevent
        obtain rfl := Classical.not_not.1 hask
        cases asks with
        | zero =>
            rw [Event.firstAsks, ← upTo_ask hsplit (fun hopen => ?_) hstep]
            · refine ih hnext hrest fun hopen => ?_
              have hopen := isOpen_step hstep hopen
              have hasks := hasks hopen
              have hlength := length_arrived_ask hopen hstep
              omega
            · have hasks := hasks hopen
              omega
        | succ asks =>
            rw [Event.firstAsks, run?_cons]
            refine ⟨_, step_upTo_ask hsplit (fun hopen => ?_) hstep,
              ih hnext hrest fun hopen => ?_⟩
            · have hasks := hasks hopen
              omega
            · have hopen := isOpen_step hstep hopen
              have hasks := hasks hopen
              have hlength := length_arrived_ask hopen hstep
              omega

/-- The messages that wait at the end of a run did nothing: the run without them leads to
the same actor, with the same session and the same replies, but for the mailbox. -/
theorem run?_firstAsks {world : σ} {events : List Event} {history : History σ α}
    (hrun : (start world).run? host kinds events = some history) :
    (start world).run? host kinds (Event.firstAsks history.taken.length events) =
      some { history with
        actor := { history.actor with mailbox := [] }
        arrived := history.taken } := by
  have hsplit : history.IsSplit := run?_preserves IsSplit.step (isSplit_start world) hrun
  have hcut : ((start world).upTo _).run? host kinds
      (Event.firstAsks history.taken.length events) = _ :=
    run?_upTo (isSplit_start world) hrun (Nat.le_refl _) fun _ => rfl
  have harrived : history.arrived.take history.taken.length = history.taken := by
    rw [hsplit, List.take_left]
  simpa only [upTo, start, Actor.start, List.take_nil, Nat.sub_self, List.take_zero,
    harrived] using hcut

end History

end CompileServer
