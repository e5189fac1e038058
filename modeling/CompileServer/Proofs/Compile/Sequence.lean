import CompileServer.Actor.Basic
import CompileServer.Proofs.Compile.Answers

/-!
# One message at a time

The server as it would be without concurrency: it handles the messages in order of
arrival and translates each request at once.  This is what a run of the actor is
compared with.
-/

namespace CompileServer

variable {σ α : Type}

namespace Session

/-- Prepares a request and does its job at once. -/
def answer (host : Host σ α) (kinds : SourceKinds) (payload : Json)
    (session : Session σ α) : Reply × Session σ α :=
  match session.prepare host kinds payload with
  | (.ok job, session) =>
    let (reply, world) := job.run host session.world
    (reply, { session with world := world })
  | (.error reply, session) => (reply, session)

/-- Handles a message. -/
def serve (host : Host σ α) (kinds : SourceKinds) (session : Session σ α) :
    Message → Session σ α
  | .compile _ payload => (session.answer host kinds payload).2
  | .snapshot _ => session
  | .shutdown => session

/-- The session after some messages. -/
def after (host : Host σ α) (kinds : SourceKinds) (world : σ) (messages : List Message) :
    Session σ α :=
  messages.foldl (serve host kinds) (.start world)

theorem after_concat (host : Host σ α) (kinds : SourceKinds) (world : σ)
    (messages : List Message) (message : Message) :
    after host kinds world (messages ++ [message]) =
      (after host kinds world messages).serve host kinds message := by
  simp only [after, List.foldl_append, List.foldl_cons, List.foldl_nil]

/-- The message with a ticket is a request with this reply, given after the messages
before it. -/
def Replies (host : Host σ α) (kinds : SourceKinds) (world : σ) (messages : List Message)
    (ticket : Ticket) (reply : Reply) : Prop :=
  ∃ payload, messages[ticket]? = some (.compile ticket payload) ∧
    ((after host kinds world (messages.take ticket)).answer host kinds payload).1 = reply

/-- The message with a ticket is a request that becomes this job after the messages before
it. -/
def Prepares (host : Host σ α) (kinds : SourceKinds) (world : σ) (messages : List Message)
    (ticket : Ticket) (job : Job α) : Prop :=
  ∃ payload, messages[ticket]? = some (.compile ticket payload) ∧
    ((after host kinds world (messages.take ticket)).prepare host kinds payload).1 = .ok job

/-- The message with a ticket asks for a snapshot, and this is the store after the messages
before it. -/
def Shows (host : Host σ α) (kinds : SourceKinds) (world : σ) (messages : List Message)
    (ticket : Ticket) (store : Store α) : Prop :=
  messages[ticket]? = some (.snapshot ticket) ∧
    (after host kinds world (messages.take ticket)).store = store

theorem answer_of_reply {host : Host σ α} {kinds : SourceKinds} {payload : Json}
    {before after : Session σ α} {reply : Reply}
    (hprepared : before.prepare host kinds payload = (.error reply, after)) :
    before.answer host kinds payload = (reply, after) := by
  simp only [answer, hprepared]

/-- With fixed answers, doing a job leaves the session that preparing it leaves. -/
theorem answer_of_job {answers : Answers α} {saving : Saving σ} {kinds : SourceKinds}
    {payload : Json} {before after : Session σ α} {job : Job α}
    (hprepared : before.prepare (answers.host saving) kinds payload = (.ok job, after)) :
    before.answer (answers.host saving) kinds payload = (answers.reply job, after) := by
  simp only [answer, hprepared, answers.run_host]

theorem answer_session (answers : Answers α) (saving : Saving σ) (kinds : SourceKinds)
    (payload : Json) (session : Session σ α) :
    (session.answer (answers.host saving) kinds payload).2 =
      (session.prepare (answers.host saving) kinds payload).2 := by
  rcases hprepared : session.prepare (answers.host saving) kinds payload with
    ⟨reply | job, after⟩
  · rw [answer_of_reply hprepared]
  · rw [answer_of_job hprepared]

section Later

variable {host : Host σ α} {kinds : SourceKinds} {world : σ} {messages : List Message}
  {ticket : Ticket}

theorem getElem?_later {message : Message} (hmessage : messages[ticket]? = some message)
    (later : List Message) :
    (messages ++ later)[ticket]? = some message ∧
      (messages ++ later).take ticket = messages.take ticket := by
  obtain ⟨hlt, -⟩ := List.getElem?_eq_some_iff.1 hmessage
  exact ⟨(List.getElem?_append_left hlt).trans hmessage,
    List.take_append_of_le_length (Nat.le_of_lt hlt)⟩

theorem Replies.later {reply : Reply}
    (hreplies : Replies host kinds world messages ticket reply) (later : List Message) :
    Replies host kinds world (messages ++ later) ticket reply := by
  obtain ⟨payload, hmessage, hreply⟩ := hreplies
  obtain ⟨hlater, htake⟩ := getElem?_later hmessage later
  exact ⟨payload, hlater, htake ▸ hreply⟩

theorem Prepares.later {job : Job α} (hprepares : Prepares host kinds world messages ticket job)
    (later : List Message) : Prepares host kinds world (messages ++ later) ticket job := by
  obtain ⟨payload, hmessage, hjob⟩ := hprepares
  obtain ⟨hlater, htake⟩ := getElem?_later hmessage later
  exact ⟨payload, hlater, htake ▸ hjob⟩

theorem Shows.later {store : Store α} (hshows : Shows host kinds world messages ticket store)
    (later : List Message) : Shows host kinds world (messages ++ later) ticket store := by
  obtain ⟨hmessage, hstore⟩ := hshows
  obtain ⟨hlater, htake⟩ := getElem?_later hmessage later
  exact ⟨hlater, htake ▸ hstore⟩

end Later

/-! ## Requests alone -/

/-- The session after some requests. -/
def afterAll (host : Host σ α) (kinds : SourceKinds) (world : σ) (payloads : List Json) :
    Session σ α :=
  payloads.foldl (fun session payload => (session.answer host kinds payload).2) (.start world)

/-- The job that the request at a position becomes, if it is resolved. -/
def jobAt? (host : Host σ α) (kinds : SourceKinds) (world : σ) (payloads : List Json)
    (position : Nat) : Option (Job α) :=
  payloads[position]?.bind fun payload =>
    ((afterAll host kinds world (payloads.take position)).prepare host kinds payload).1.toOption

section Position

variable (host : Host σ α) (kinds : SourceKinds) (world : σ) (payloads : List Json)

theorem afterAll_concat (payload : Json) :
    afterAll host kinds world (payloads ++ [payload]) =
      ((afterAll host kinds world payloads).answer host kinds payload).2 := by
  simp only [afterAll, List.foldl_append, List.foldl_cons, List.foldl_nil]

theorem jobAt?_append {position : Nat} (hlt : position < payloads.length)
    (later : List Json) :
    jobAt? host kinds world (payloads ++ later) position =
      jobAt? host kinds world payloads position := by
  unfold jobAt?
  rw [List.getElem?_append_left hlt, List.take_append_of_le_length (Nat.le_of_lt hlt)]

theorem jobAt?_eq_some {position : Nat} {job : Job α} :
    jobAt? host kinds world payloads position = some job ↔
      ∃ payload, payloads[position]? = some payload ∧
        ((afterAll host kinds world (payloads.take position)).prepare host kinds payload).1 =
          .ok job := by
  unfold jobAt?
  rw [Option.bind_eq_some_iff]
  refine exists_congr fun payload => and_congr_right fun _ => ?_
  cases ((afterAll host kinds world (payloads.take position)).prepare host kinds payload).1 <;>
    simp [Except.toOption]

theorem jobAt?_concat {payload : Json} {job : Job α} :
    jobAt? host kinds world (payloads ++ [payload]) payloads.length = some job ↔
      ((afterAll host kinds world payloads).prepare host kinds payload).1 = .ok job := by
  rw [jobAt?_eq_some, List.getElem?_concat_length,
    List.take_append_of_le_length (Nat.le_refl _), List.take_length]
  simp only [Option.some.injEq, exists_eq_left']

theorem jobAt?_of_length_le {position : Nat} (hle : payloads.length ≤ position) :
    jobAt? host kinds world payloads position = none := by
  unfold jobAt?
  rw [List.getElem?_eq_none hle]
  rfl

end Position

end Session

end CompileServer
