import CompileServer.Proofs.Server.Slips
import Mathlib.Data.List.Nodup

/-!
# The books of the server

What holds at every moment of a run of the server: the lines that were looked at are the
first of the input, the requests among them are posted to the actor in their order and under
their numbers, and every line that asks for something has its slip.
-/

namespace CompileServer

variable {σ α : Type}

/-- The number of requests that the reader has not passed on yet. -/
def Reader.pending : Reader → Nat
  | .posting _ _ => 1
  | _ => 0

/-- The requests that arrived at the actor are the first that were read, and only those are
missing that the reader has still to pass on, unless the actor is gone. -/
structure Posted (requests arrived : List (Ticket × Json)) (sent : Nat) (reader : Reader)
    (phase : Phase) : Prop where
  first : arrived = requests.take sent
  bound : sent + reader.pending ≤ requests.length
  unstopped : phase ≠ .stopped → sent + reader.pending = requests.length
  posting : ∀ id params, reader = .posting id params →
    ∃ earlier, requests = earlier ++ [(earlier.length, params)]

namespace Posted

variable {requests arrived : List (Ticket × Json)} {sent : Nat} {reader later : Reader}
  {phase : Phase}

/-- The reader does something else. -/
theorem idle (hposted : Posted requests arrived sent reader phase)
    (hreader : reader.pending = 0) (hlater : later.pending = 0) :
    Posted requests arrived sent later phase where
  first := hposted.first
  bound := by
    rw [hlater, ← hreader]
    exact hposted.bound
  unstopped := by
    rw [hlater, ← hreader]
    exact hposted.unstopped
  posting id params hposting := by
    rw [hposting] at hlater
    cases hlater

/-- The reader reads a request. -/
theorem read (hposted : Posted requests arrived sent .ready phase) (id : String)
    (params : Json) :
    Posted (requests ++ [(requests.length, params)]) arrived sent (.posting id params) phase where
  first := by
    have hbound : sent ≤ requests.length := hposted.bound
    rw [List.take_append_of_le_length hbound]
    exact hposted.first
  bound := by
    rw [List.length_append]
    exact Nat.add_le_add_right hposted.bound 1
  unstopped hunstopped := by
    rw [List.length_append, ← hposted.unstopped hunstopped]
    rfl
  posting id params hposting := by
    cases hposting
    exact ⟨requests, rfl⟩

/-- The reader finds the actor gone. -/
theorem refuse {id : String} {params : Json} (response : Response)
    (hposted : Posted requests arrived sent (.posting id params) .stopped) :
    Posted requests arrived sent (.answering response) .stopped where
  first := hposted.first
  bound := Nat.le_of_succ_le hposted.bound
  unstopped hunstopped := absurd rfl hunstopped
  posting id params hposting := by cases hposting

/-- The reader passes a request on, which is the next one in the order of the lines. -/
theorem post {id : String} {params : Json}
    (hposted : Posted requests arrived sent (.posting id params) phase)
    (hunstopped : phase ≠ .stopped) :
    Posted requests (arrived ++ [(sent, params)]) (sent + 1) .ready phase where
  first := by
    obtain ⟨earlier, hrequests⟩ := hposted.posting id params rfl
    have hlength := hposted.unstopped hunstopped
    rw [hrequests, List.length_append] at hlength
    have hearlier : sent = earlier.length := Nat.succ.inj hlength
    rw [hposted.first, hrequests, hearlier, List.take_left]
    exact (List.take_of_length_le (Nat.le_of_eq List.length_append)).symm
  bound := hposted.bound
  unstopped := hposted.unstopped
  posting id params hposting := by cases hposting

/-- The actor goes on. -/
theorem proceed {next : Phase} (hposted : Posted requests arrived sent reader phase)
    (hphase : phase = .stopped → next = .stopped) :
    Posted requests arrived sent reader next where
  first := hposted.first
  bound := hposted.bound
  unstopped hunstopped := hposted.unstopped (mt hphase hunstopped)
  posting := hposted.posting

end Posted

namespace Transcript

/-- The requests that were read and those that arrived at the actor. -/
def Posted (transcript : Transcript σ α) : Prop :=
  CompileServer.Posted (Entry.requests transcript.lines)
    (transcript.history.arrived.filterMap Message.request?) transcript.server.sent
    transcript.server.reader transcript.server.actor.phase

/-- What was looked at is counted and is the first of the input, and the reader stops for a
reason. -/
structure Looked (transcript : Transcript σ α) : Prop where
  counted : transcript.server.count = (Entry.ofLines transcript.lines).length
  input : transcript.input = transcript.lines.map .line ++ transcript.server.frames
  ended : transcript.server.reader = .finished → transcript.server.AtEnd

/-- What holds at every moment of a run. -/
structure Accounted (fixed : ServerContext σ α) (transcript : Transcript σ α) : Prop
    extends Looked transcript where
  same : transcript.history.actor = transcript.server.actor
  kept : transcript.history.Kept fixed.host fixed.compiler.sources
  posted : transcript.Posted
  abandoned : transcript.server.actor.abandoned = true → transcript.server.reader = .finished
  paired : transcript.server.broken = false →
    Paired (transcript.Fits fixed) (Entry.ofLines transcript.lines) transcript.slips

theorem accounted_start (fixed : ServerContext σ α) (world : σ) :
    (start world).Accounted fixed where
  same := rfl
  kept := History.kept_start world
  posted := {
    first := rfl
    bound := Nat.le_refl 0
    unstopped := fun _ => rfl
    posting := fun _ _ hposting => by cases hposting }
  abandoned habandoned := by cases habandoned
  counted := rfl
  input := rfl
  ended hfinished := by cases hfinished
  paired _ := .nil

/-! ## What a move writes down -/

section Record

variable {transcript : Transcript σ α} {move : ServerMove} {next : Server σ α}

theorem lines_record_of_same (hframes : next.frames = transcript.server.frames) :
    (transcript.record move next).lines = transcript.lines := by
  simp [record, hframes]

theorem lines_record_of_read {text : String}
    (hframes : transcript.server.frames = .line text :: next.frames) :
    (transcript.record move next).lines = transcript.lines ++ [text] := by
  simp [record, hframes, Frame.text?]

theorem history_record_of_same (hsame : transcript.history.actor = transcript.server.actor)
    (hactor : next.actor = transcript.server.actor) (hmove : ∀ step, move ≠ .act step) :
    (transcript.record move next).history = transcript.history := by
  cases move with
  | act step => exact absurd rfl (hmove step)
  | read | post | answer | collect | forward | write => simp [record, hactor, ← hsame]

theorem history_record_of_send (message : Message)
    (hsame : transcript.history.actor = transcript.server.actor) (hmove : move = .post)
    (hactor : next.actor = { transcript.server.actor with
      mailbox := transcript.server.actor.mailbox ++ [message] })
    (hopen : transcript.server.actor.isOpen = true) :
    (transcript.record move next).history = transcript.history.deliver message := by
  simp [record, hmove, History.deliver, Actor.send, hsame, hopen, hactor]

theorem mem_arrived_record (message : Message)
    (hsame : transcript.history.actor = transcript.server.actor) (hmove : move = .post)
    (hactor : next.actor = { transcript.server.actor with
      mailbox := transcript.server.actor.mailbox ++ [message] })
    (hopen : transcript.server.actor.isOpen = true) :
    message ∈ (transcript.record move next).history.arrived := by
  rw [history_record_of_send message hsame hmove hactor hopen, History.deliver, hsame,
    if_pos hopen]
  exact List.mem_append_right _ (List.mem_singleton.2 rfl)

end Record

/-! ## The actor -/

variable {fixed : ServerContext σ α} {before after : Transcript σ α}

theorem Later.of_step {event : Event} (haccounted : before.Accounted fixed)
    (hstep : History.Step fixed.host fixed.compiler.sources before.history event after.history)
    (hevent : ∀ errand, event ≠ .ask errand)
    (hsame : after.history.actor = after.server.actor)
    (hsent : after.server.sent = before.server.sent) : before.Later after where
  arrived _ hmem := by
    rw [History.arrived_step hstep hevent]
    exact hmem
  replies _ _ hreply := by
    rw [← haccounted.same] at hreply
    rw [← hsame]
    exact History.replyTo?_step hstep hreply
  stopped hstopped := by
    rw [← haccounted.same] at hstopped
    rw [← hsame]
    exact ⟨History.stopped_step hstep hstopped, hsent⟩
  lost _ hlost := by
    rw [← haccounted.same] at hlost
    rw [← hsame]
    exact haccounted.kept.isLost_step hstep hlost

theorem Later.of_deliver {message : Message}
    (hhistory : after.history = before.history.deliver message)
    (hactor : after.server.actor = before.server.actor.send message)
    (hsent : before.server.actor.phase = .stopped → after.server.sent = before.server.sent) :
    before.Later after where
  arrived other hmem := by
    rw [hhistory, History.deliver]
    split
    · exact List.mem_append_left _ hmem
    · exact hmem
  replies _ _ hreply := by
    rw [hactor, Actor.send]
    split <;> exact hreply
  stopped hstopped := by
    refine ⟨?_, hsent hstopped⟩
    rw [hactor, Actor.send]
    split <;> exact hstopped
  lost _ hlost := by
    rw [hactor, Actor.send]
    split <;> exact hlost

theorem actor_deliver (history : History σ α) (message : Message) :
    (history.deliver message).actor = history.actor.send message := by
  simp only [History.deliver, Actor.send]
  split <;> rfl

/-- What is known of the actor is kept, and the history goes on with it. -/
theorem Accounted.actor_step (haccounted : before.Accounted fixed)
    (hstep : Step fixed before after) :
    after.history.actor = after.server.actor ∧
      after.history.Kept fixed.host fixed.compiler.sources ∧ before.Later after := by
  have hsame := haccounted.same
  have hkept := haccounted.kept
  have hof_step : ∀ event, (∀ errand, event ≠ .ask errand) →
      History.Step fixed.host fixed.compiler.sources before.history event after.history →
      after.history.actor = after.server.actor → after.server.sent = before.server.sent →
      after.history.actor = after.server.actor ∧
        after.history.Kept fixed.host fixed.compiler.sources ∧ before.Later after := by
    intro event hevent hstep hactor hsent
    exact ⟨hactor, hkept.step hstep, .of_step haccounted hstep hevent hactor hsent⟩
  cases hstep with
  | fed | inputEnded | cancelled | closed => exact ⟨hsame, hkept, .of_same rfl rfl rfl⟩
  | actorCancelled =>
      apply hof_step .cancel (fun _ => Event.noConfusion) _ rfl rfl
      rw [setActor, ← hsame]
      exact .cancelled
  | abandoned =>
      apply hof_step .abandon (fun _ => Event.noConfusion) _ rfl rfl
      rw [setActor, ← hsame]
      exact .abandoned
  | @told message =>
      refine ⟨?_, hkept.deliver message, .of_deliver rfl rfl fun _ => rfl⟩
      simp only [tell, actor_deliver, hsame]
  | @moved move next hmoves =>
      have hof_same : next.actor = before.server.actor → next.sent = before.server.sent →
          (∀ step, move ≠ .act step) →
          (before.record move next).history.actor = next.actor ∧
            (before.record move next).history.Kept fixed.host fixed.compiler.sources ∧
            before.Later (before.record move next) := by
        intro hactor hsent hmove
        have hhistory := history_record_of_same hsame hactor hmove
        rw [hhistory, hactor]
        exact ⟨hsame, hkept, .of_same (by rw [hhistory]) hactor hsent⟩
      have hof_send : ∀ message, move = .post →
          next.actor = { before.server.actor with
            mailbox := before.server.actor.mailbox ++ [message] } →
          before.server.actor.isOpen = true →
          (before.record move next).history.actor = next.actor ∧
            (before.record move next).history.Kept fixed.host fixed.compiler.sources ∧
            before.Later (before.record move next) := by
        intro message hmove hactor hopen
        have hhistory := history_record_of_send message hsame hmove hactor hopen
        have hsent : next.actor = before.server.actor.send message := by
          rw [hactor, Actor.send, if_pos hopen]
        rw [hhistory]
        refine ⟨?_, hkept.deliver message, .of_deliver hhistory hsent fun hstopped => ?_⟩
        · rw [actor_deliver, hsame, hsent]
        · simp [Actor.isOpen, hstopped] at hopen
      cases hmoves with
      | skipped | garbled | asked | ended | refused | collected | lost | wrote | broke =>
          exact hof_same rfl rfl fun _ => ServerMove.noConfusion
      | answered | forwarded =>
          rw [Server.put_eq] at hof_same ⊢
          exact hof_same rfl rfl fun _ => ServerMove.noConfusion
      | posted _ hopen => exact hof_send _ rfl rfl hopen
      | @acted step actor hmove =>
          apply hof_step (.move step) (fun _ => Event.noConfusion) _ rfl rfl
          apply History.step_of_next?
          simp only [History.next?, hsame, hmove, Option.map_some]
          rfl

/-! ## The lines -/

section Looking

variable {move : ServerMove} {next : Server σ α} {text : String}

theorem Looked.of_same (hlooked : before.Looked) (hframes : next.frames = before.server.frames)
    (hcount : next.count = before.server.count) (hend : next.reader = .finished → next.AtEnd) :
    (before.record move next).Looked where
  counted := by
    rw [lines_record_of_same hframes]
    exact hcount.trans hlooked.counted
  input := by
    rw [lines_record_of_same hframes]
    exact hlooked.input.trans (congrArg _ hframes.symm)
  ended := hend

/-- A line is looked at that was the next one. -/
theorem Looked.of_read (hlooked : before.Looked)
    (hframes : before.server.frames = .line text :: next.frames)
    (hcount : next.count = (Entry.ofLines (before.lines ++ [text])).length)
    (hreader : next.reader ≠ .finished) : (before.record move next).Looked where
  counted := by
    rw [lines_record_of_read hframes]
    exact hcount
  input := by
    have hinput := hlooked.input
    rw [hframes] at hinput
    rw [lines_record_of_read hframes, List.map_append, List.append_assoc]
    exact hinput
  ended hfinished := absurd hfinished hreader

end Looking

/-- What one step preserves of the lines. -/
theorem Looked.step (hlooked : before.Looked) (hstep : Step fixed before after) :
    after.Looked := by
  have hended := hlooked.ended
  cases hstep with
  | fed frames hawaiting =>
      refine ⟨hlooked.counted, ?_, fun hfinished => ?_⟩
      · simp only [hlooked.input, List.append_assoc]
      · obtain hcancelled | ⟨rest, hframes⟩ | ⟨-, hover⟩ := hended hfinished
        · exact Or.inl hcancelled
        · refine Or.inr (Or.inl ⟨rest ++ frames, ?_⟩)
          simp only [hframes, List.cons_append]
        · rw [hawaiting] at hover
          cases hover
  | inputEnded =>
      refine ⟨hlooked.counted, hlooked.input, fun hfinished => ?_⟩
      obtain hcancelled | hframes | ⟨hframes, -⟩ := hended hfinished
      · exact Or.inl hcancelled
      · exact Or.inr (Or.inl hframes)
      · exact Or.inr (Or.inr ⟨hframes, rfl⟩)
  | cancelled => exact ⟨hlooked.counted, hlooked.input, fun _ => Or.inl rfl⟩
  | closed | actorCancelled | abandoned | told =>
      exact ⟨hlooked.counted, hlooked.input, hended⟩
  | moved hmoves =>
      cases hmoves with
      | skipped hreads hline =>
          apply hlooked.of_read hreads.next
          · rw [Entry.ofLines_blank hline]
            exact hlooked.counted
          · rw [hreads.ready]
            exact Reader.noConfusion
      | garbled hreads hline =>
          apply hlooked.of_read hreads.next
          · rw [Entry.ofLines_faulty hline, List.length_append, ← hlooked.counted]
            rfl
          · exact Reader.noConfusion
      | asked hreads hline =>
          apply hlooked.of_read hreads.next
          · rw [Entry.ofLines_request hline, List.length_append, ← hlooked.counted]
            rfl
          · exact Reader.noConfusion
      | ended hready hend => exact hlooked.of_same rfl rfl fun _ => hend
      | refused | posted => exact hlooked.of_same rfl rfl fun hfinished => by cases hfinished
      | answered =>
          rw [Server.put_eq]
          exact hlooked.of_same rfl rfl fun hfinished => by cases hfinished
      | forwarded =>
          rw [Server.put_eq]
          exact hlooked.of_same rfl rfl hended
      | collected | lost | wrote | broke | acted => exact hlooked.of_same rfl rfl hended

/-! ## The requests -/

theorem phase_send (actor : Actor σ α) (message : Message) :
    (actor.send message).phase = actor.phase := by
  simp only [Actor.send]
  split <;> rfl

theorem filterMap_deliver {message : Message} (hother : message.request? = none)
    (history : History σ α) :
    (history.deliver message).arrived.filterMap Message.request? =
      history.arrived.filterMap Message.request? := by
  simp only [History.deliver]
  split
  · simp [hother]
  · rfl

theorem filterMap_deliver_compile {history : History σ α} (hopen : history.actor.isOpen = true)
    (ticket : Ticket) (payload : Json) :
    (history.deliver (.compile ticket payload)).arrived.filterMap Message.request? =
      history.arrived.filterMap Message.request? ++ [(ticket, payload)] := by
  simp [History.deliver, hopen, Message.request?]

/-- While the reader has something to pass on, it holds a handle of the actor. -/
theorem Accounted.stopped_of_closed (haccounted : before.Accounted fixed) {id : String}
    {params : Json} (hreader : before.server.reader = .posting id params)
    (hclosed : before.server.actor.isOpen = false) :
    before.server.actor.phase = .stopped := by
  cases habandoned : before.server.actor.abandoned with
  | true =>
      rw [haccounted.abandoned habandoned] at hreader
      cases hreader
  | false => simpa [Actor.isOpen, habandoned] using hclosed

/-- Requests are passed on in the order of their lines. -/
theorem Accounted.posted_step (haccounted : before.Accounted fixed)
    (hstep : Step fixed before after) : after.Posted := by
  have hposted := haccounted.posted
  have hlater := (haccounted.actor_step hstep).2.2
  cases hstep with
  | fed | inputEnded | cancelled | closed | actorCancelled | abandoned => exact hposted
  | told hother =>
      rw [Posted, tell, filterMap_deliver hother, phase_send]
      exact hposted
  | @moved move next hmoves =>
      have hsame : next.actor = before.server.actor → (∀ step, move ≠ .act step) →
          next.sent = before.server.sent →
          CompileServer.Posted (Entry.requests (before.record move next).lines)
            (before.history.arrived.filterMap Message.request?) before.server.sent next.reader
            before.server.actor.phase → (before.record move next).Posted := by
        intro hactor hmove hsent hnext
        rw [Posted, history_record_of_same haccounted.same hactor hmove]
        change CompileServer.Posted _ _ next.sent next.reader next.actor.phase
        rw [hsent, hactor]
        exact hnext
      have hsend : ∀ message, move = .post →
          next.actor = { before.server.actor with
            mailbox := before.server.actor.mailbox ++ [message] } →
          before.server.actor.isOpen = true →
          (before.record move next).history = before.history.deliver message :=
        fun message => history_record_of_send message haccounted.same
      have hlines : next.frames = before.server.frames →
          Entry.requests (before.record move next).lines = Entry.requests before.lines := by
        intro hframes
        rw [lines_record_of_same hframes]
      cases hmoves with
      | skipped hreads hline =>
          apply hsame rfl (fun _ => ServerMove.noConfusion) rfl
          rw [lines_record_of_read hreads.next, Entry.requests_blank hline]
          exact hposted
      | garbled hreads hline =>
          apply hsame rfl (fun _ => ServerMove.noConfusion) rfl
          rw [lines_record_of_read hreads.next, Entry.requests_faulty hline]
          apply hposted.idle _ rfl
          rw [hreads.ready]
          rfl
      | asked hreads hline =>
          apply hsame rfl (fun _ => ServerMove.noConfusion) rfl
          rw [lines_record_of_read hreads.next, Entry.requests_request hline]
          rw [Posted, hreads.ready] at hposted
          exact hposted.read _ _
      | ended hready =>
          apply hsame rfl (fun _ => ServerMove.noConfusion) rfl
          rw [hlines rfl]
          apply hposted.idle _ rfl
          rw [hready]
          rfl
      | refused hreader hclosed =>
          have hstopped := haccounted.stopped_of_closed hreader hclosed
          apply hsame rfl (fun _ => ServerMove.noConfusion) rfl
          rw [hlines rfl, hstopped]
          rw [Posted, hreader, hstopped] at hposted
          exact hposted.refuse _
      | posted hreader hopen =>
          have hunstopped : before.server.actor.phase ≠ .stopped := by
            intro hstopped
            simp [Actor.isOpen, hstopped] at hopen
          rw [Posted, hreader] at hposted
          have hhistory := hsend _ rfl rfl hopen
          rw [← haccounted.same] at hopen
          rw [Posted, hlines rfl, hhistory, filterMap_deliver_compile hopen]
          exact hposted.post hunstopped
      | answered hreader =>
          rw [Server.put_eq] at hsame hlines ⊢
          apply hsame rfl (fun _ => ServerMove.noConfusion) rfl
          rw [hlines rfl]
          apply hposted.idle _ rfl
          rw [hreader]
          rfl
      | forwarded =>
          rw [Server.put_eq] at hsame hlines ⊢
          apply hsame rfl (fun _ => ServerMove.noConfusion) rfl
          rw [hlines rfl]
          exact hposted
      | collected | lost | wrote | broke =>
          apply hsame rfl (fun _ => ServerMove.noConfusion) rfl
          rw [hlines rfl]
          exact hposted
      | acted =>
          rw [Posted, hlines rfl]
          exact hposted.proceed fun hstopped => (hlater.stopped hstopped).1

/-- The last handle of the actor is dropped only after the reader is finished. -/
theorem Accounted.abandoned_step (haccounted : before.Accounted fixed)
    (hstep : Step fixed before after) (habandoned : after.server.actor.abandoned = true) :
    after.server.reader = .finished := by
  have hbefore := haccounted.abandoned
  cases hstep with
  | fed | inputEnded | cancelled | closed | actorCancelled => exact hbefore habandoned
  | abandoned hfinished => exact hfinished
  | told =>
      apply hbefore
      simp only [tell, Actor.send] at habandoned
      split at habandoned <;> exact habandoned
  | moved hmoves =>
      have hno : before.server.reader ≠ .finished → before.server.actor.abandoned ≠ true :=
        mt hbefore
      cases hmoves with
      | skipped hreads | garbled hreads | asked hreads =>
          refine absurd habandoned (hno ?_)
          rw [hreads.ready]
          exact Reader.noConfusion
      | refused hreader | posted hreader =>
          refine absurd habandoned (hno ?_)
          rw [hreader]
          exact Reader.noConfusion
      | answered hreader =>
          rw [Server.put_eq] at habandoned
          refine absurd habandoned (hno ?_)
          rw [hreader]
          exact Reader.noConfusion
      | ended => rfl
      | forwarded =>
          rw [Server.put_eq] at habandoned ⊢
          exact hbefore habandoned
      | collected | lost | wrote | broke => exact hbefore habandoned
      | acted hmove =>
          apply hbefore
          rw [← Actor.abandoned_move? hmove]
          exact habandoned

/-! ## The slips -/

/-- A writer that gave up does not take up its work again. -/
theorem Step.broken (hstep : Step fixed before after) (hunbroken : after.server.broken = false) :
    before.server.broken = false := by
  cases hstep with
  | fed | inputEnded | cancelled | closed | actorCancelled | abandoned | told => exact hunbroken
  | moved hmoves =>
      cases hmoves with
      | answered | forwarded =>
          rw [Server.put_eq] at hunbroken
          exact hunbroken
      | broke => cases hunbroken
      | skipped | garbled | asked | ended | refused | posted | collected | lost | wrote
      | acted => exact hunbroken

theorem slips_of_reader {reader : Reader} (hreader : before.server.reader = reader) :
    before.slips =
      before.server.handedOn ++ reader.slips (Entry.requests before.lines).length := by
  rw [slips, hreader]

section Handing

variable {entry : Entry} {ticket : Ticket} {id : String} {params : Json}

/-- The actor has one payload for a ticket. -/
theorem Accounted.payload_eq (haccounted : before.Accounted fixed) {other : Json}
    (hleft : .compile ticket params ∈ before.history.arrived)
    (hright : .compile ticket other ∈ before.history.arrived) : params = other := by
  rw [← Message.mem_filterMap_request?, haccounted.posted.first] at hleft hright
  have hnodup : ((Entry.requests before.lines).map Prod.fst).Nodup := by
    rw [Entry.map_fst_requests]
    exact List.nodup_range
  have hpair := List.inj_on_of_nodup_map hnodup (List.mem_of_mem_take hleft)
    (List.mem_of_mem_take hright) rfl
  exact congrArg Prod.snd hpair

theorem Accounted.fits_refused (haccounted : before.Accounted fixed)
    (hreader : before.server.reader = .posting id params)
    (hclosed : before.server.actor.isOpen = false)
    (hfits : before.Fits fixed entry
      (.posting ((Entry.requests before.lines).length - 1) id params)) :
    before.Fits fixed entry (.ready (Server.refusedResponse id)) := by
  have hstopped := haccounted.stopped_of_closed hreader hclosed
  have hbound := haccounted.posted.bound
  rw [hreader] at hbound
  have hunsent : before.server.sent ≤ (Entry.requests before.lines).length - 1 :=
    Nat.le_sub_one_of_lt hbound
  cases hfits with
  | posting => exact .ready (.refused hunsent hstopped)

theorem Accounted.fits_posted (haccounted : before.Accounted fixed)
    (hreader : before.server.reader = .posting id params)
    (hopen : before.server.actor.isOpen = true)
    (harrived : .compile before.server.sent params ∈ after.history.arrived)
    (hfits : after.Fits fixed entry
      (.posting ((Entry.requests before.lines).length - 1) id params)) :
    after.Fits fixed entry (.waiting before.server.sent id) := by
  have hunstopped : before.server.actor.phase ≠ .stopped := by
    intro hstopped
    simp [Actor.isOpen, hstopped] at hopen
  have hlength := haccounted.posted.unstopped hunstopped
  rw [hreader] at hlength
  have hsent : (Entry.requests before.lines).length - 1 = before.server.sent :=
    (Nat.eq_sub_of_add_eq hlength).symm
  rw [hsent] at hfits
  cases hfits with
  | posting => exact .waiting harrived

theorem Accounted.fits_collected (haccounted : before.Accounted fixed) {reply : Reply}
    (hreply : before.server.actor.replyTo? ticket = some reply)
    (hfits : before.Fits fixed entry (.waiting ticket id)) :
    before.Fits fixed entry (.ready ⟨id, reply⟩) := by
  cases hfits with
  | waiting harrived =>
      have hkept := hreply
      rw [← haccounted.same] at hkept
      obtain ⟨payload, hpayload, hgiven⟩ := haccounted.kept.of_replyTo? hkept
      rw [haccounted.payload_eq hpayload harrived] at hgiven
      exact .ready (.replied harrived hreply hgiven)

theorem fits_lost (hlost : before.server.actor.isLost ticket = true)
    (hfits : before.Fits fixed entry (.waiting ticket id)) :
    before.Fits fixed entry (.ready (Server.lostResponse id)) := by
  cases hfits with
  | waiting harrived => exact .ready (.lost harrived hlost)

/-- A forwarder that waits gets a response. -/
theorem paired_collect {entries : List Entry} {position : Nat} {response : Response}
    (hpaired : Paired (before.Fits fixed) entries before.slips)
    (hforwarder : before.server.forwarders[position]? = some (.waiting ticket id))
    (hfits : ∀ entry, before.Fits fixed entry (.waiting ticket id) →
      before.Fits fixed entry (.ready response)) :
    Paired (before.Fits fixed) entries
      ({ before.server with
          forwarders := before.server.forwarders.set position (.holding response) }.handedOn ++
        before.server.reader.slips (Entry.requests before.lines).length) := by
  have hfirst := hpaired.perm ((perm_handedOn hforwarder).append_right _)
  have hcollected := hfirst.replace hfits
  have hset := perm_handedOn_set hforwarder (.holding response)
  exact hcollected.perm (hset.append_right _).symm

end Handing

/-- Every line that asks for something keeps its slip. -/
theorem Accounted.paired_step (haccounted : before.Accounted fixed)
    (hstep : Step fixed before after) (hunbroken : after.server.broken = false) :
    Paired (after.Fits fixed) (Entry.ofLines after.lines) after.slips := by
  have hlater := (haccounted.actor_step hstep).2.2
  have hbroken := hstep.broken hunbroken
  have hbefore := haccounted.paired hbroken
  have hpaired : Paired (after.Fits fixed) (Entry.ofLines before.lines) before.slips :=
    hbefore.mono fun _ _ => hlater.fits
  cases hstep with
  | fed | inputEnded | cancelled | closed | actorCancelled | abandoned | told => exact hpaired
  | @moved move next hmoves =>
      have hlines : next.frames = before.server.frames →
          (before.record move next).lines = before.lines := lines_record_of_same
      have hread : ∀ {text}, before.server.frames = .line text :: next.frames →
          (before.record move next).lines = before.lines ++ [text] := lines_record_of_read
      have hsend : ∀ message, move = .post →
          next.actor = { before.server.actor with
            mailbox := before.server.actor.mailbox ++ [message] } →
          before.server.actor.isOpen = true →
          message ∈ (before.record move next).history.arrived :=
        fun message => mem_arrived_record message haccounted.same
      cases hmoves with
      | skipped hreads hline =>
          rw [slips, hread hreads.next, Entry.ofLines_blank hline, Entry.requests_blank hline]
          exact hpaired
      | garbled hreads hline =>
          rw [slips_of_reader hreads.ready, Reader.slips, List.append_nil] at hpaired
          rw [slips_of_reader rfl, hread hreads.next, Entry.ofLines_faulty hline]
          exact hpaired.concat (.ready .faulty)
      | asked hreads hline =>
          rw [slips_of_reader hreads.ready, Reader.slips, List.append_nil] at hpaired
          rw [slips_of_reader rfl, hread hreads.next, Entry.ofLines_request hline,
            Entry.requests_request hline, List.length_append, ← haccounted.counted]
          exact hpaired.concat .posting
      | ended hready =>
          rw [slips_of_reader hready] at hpaired
          rw [slips_of_reader rfl, hlines rfl]
          exact hpaired
      | refused hreader hclosed =>
          rw [slips_of_reader hreader] at hbefore
          have hrefused := hbefore.replace_last fun _ =>
            haccounted.fits_refused hreader hclosed
          rw [slips_of_reader rfl, hlines rfl]
          exact hrefused.mono fun _ _ => hlater.fits
      | posted hreader hopen =>
          have harrived := hsend _ rfl rfl hopen
          rw [slips_of_reader hreader] at hpaired
          have hposted := hpaired.replace_last fun _ =>
            haccounted.fits_posted hreader hopen harrived
          rw [slips, hlines rfl]
          apply hposted.perm
          exact (perm_handedOn_post (.waiting _ _)).symm.trans (.of_eq (List.append_nil _).symm)
      | answered hreader =>
          rw [slips_of_reader hreader] at hpaired
          rw [Server.put_eq, if_neg (Bool.eq_false_iff.1 hbroken)] at hpaired hlines ⊢
          rw [slips, hlines rfl]
          apply hpaired.perm
          exact (perm_handedOn_put _).symm.trans (.of_eq (List.append_nil _).symm)
      | collected hforwarder hreply =>
          have hcollected := paired_collect hbefore hforwarder fun _ =>
            haccounted.fits_collected hreply
          rw [slips, hlines rfl]
          exact hcollected.mono fun _ _ => hlater.fits
      | lost hforwarder hlost =>
          have hcollected := paired_collect hbefore hforwarder fun _ => fits_lost hlost
          rw [slips, hlines rfl]
          exact hcollected.mono fun _ _ => hlater.fits
      | @forwarded position response hforwarder =>
          rw [Server.put_eq, if_neg (Bool.eq_false_iff.1 hbroken)] at hpaired hlines ⊢
          have hfirst := (perm_handedOn hforwarder).trans
            (List.perm_append_singleton (Slip.ready response) _).symm
          have hput := hfirst.trans (perm_handedOn_put response).symm
          rw [slips, hlines rfl]
          exact hpaired.perm (hput.append_right _)
      | wrote houtbox =>
          rw [slips, hlines rfl]
          exact hpaired.perm ((perm_handedOn_write houtbox).append_right _)
      | broke => cases hunbroken
      | acted =>
          rw [slips, hlines rfl]
          exact hpaired

/-- What one step preserves. -/
theorem Accounted.step (haccounted : before.Accounted fixed)
    (hstep : Step fixed before after) : after.Accounted fixed where
  toLooked := haccounted.toLooked.step hstep
  same := (haccounted.actor_step hstep).1
  kept := (haccounted.actor_step hstep).2.1
  posted := haccounted.posted_step hstep
  abandoned := haccounted.abandoned_step hstep
  paired := haccounted.paired_step hstep

/-- What a run preserves. -/
theorem accounted_of_run {world : σ} {happenings : List Happening} {transcript : Transcript σ α}
    (hrun : (start world).run? fixed happenings = some transcript) :
    transcript.Accounted fixed :=
  run?_preserves Accounted.step (accounted_start fixed world) hrun

end Transcript

end CompileServer
