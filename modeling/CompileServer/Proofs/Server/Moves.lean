import CompileServer.Proofs.Actor.History
import CompileServer.Server.Run
import Mathlib.Algebra.Ring.Nat

/-!
# Moves of the server

What the server can do, said once: every move with what leads to it and what it changes.
Each move uses up some of the work that is left, so a server that is given nothing more to
do comes to rest.
-/

namespace CompileServer

variable {σ α : Type}

namespace Server

/-- The reader has no more lines to look at. -/
def AtEnd (server : Server σ α) : Prop :=
  server.cancelled = true ∨ (∃ rest, server.frames = .notText :: rest) ∨
    server.frames = [] ∧ server.awaiting = false

/-- The reader is about to look at a line. -/
structure Reads (server : Server σ α) (text : String) (rest : List Frame) : Prop where
  ready : server.reader = .ready
  heeding : server.cancelled = false
  next : server.frames = .line text :: rest

/-- Everything that the server can do. -/
inductive Moves (fixed : ServerContext σ α) (before : Server σ α) :
    ServerMove → Server σ α → Prop where
  | skipped {text : String} {rest : List Frame} (hreads : before.Reads text rest)
      (hline : Incoming.ofLine text = .blank) :
      Moves fixed before .read { before with frames := rest }
  | garbled {text : String} {rest : List Frame} {failure : Json.Failure}
      (hreads : before.Reads text rest) (hline : Incoming.ofLine text = .faulty failure) :
      Moves fixed before .read
        { before with
          frames := rest
          count := before.count + 1
          reader := .answering (faultyResponse failure) }
  | asked {text : String} {rest : List Frame} {request : Request}
      (hreads : before.Reads text rest) (hline : Incoming.ofLine text = .request request) :
      Moves fixed before .read
        { before with
          frames := rest
          count := before.count + 1
          reader := .posting (request.id.getD (fixed.freshId before.count)) request.params }
  | ended (hready : before.reader = .ready) (hend : before.AtEnd) :
      Moves fixed before .read { before with reader := .finished }
  | refused {id : String} {params : Json} (hreader : before.reader = .posting id params)
      (hclosed : before.actor.isOpen = false) :
      Moves fixed before .post { before with reader := .answering (refusedResponse id) }
  | posted {id : String} {params : Json} (hreader : before.reader = .posting id params)
      (hopen : before.actor.isOpen = true)
      (hroom : before.actor.mailbox.length < fixed.compiler.mailboxCapacity) :
      Moves fixed before .post
        { before with
          actor := { before.actor with
            mailbox := before.actor.mailbox ++ [.compile before.sent params] }
          sent := before.sent + 1
          reader := .ready
          forwarders := before.forwarders ++ [.waiting before.sent id] }
  | answered {response : Response} (hreader : before.reader = .answering response)
      (hroom : before.hasRoom = true) :
      Moves fixed before .answer ({ before with reader := .ready }.put response)
  | collected {position : Nat} {ticket : Ticket} {id : String} {reply : Reply}
      (hforwarder : before.forwarders[position]? = some (.waiting ticket id))
      (hreply : before.actor.replyTo? ticket = some reply) :
      Moves fixed before (.collect position)
        { before with forwarders := before.forwarders.set position (.holding ⟨id, reply⟩) }
  | lost {position : Nat} {ticket : Ticket} {id : String}
      (hforwarder : before.forwarders[position]? = some (.waiting ticket id))
      (hlost : before.actor.isLost ticket = true) :
      Moves fixed before (.collect position)
        { before with forwarders := before.forwarders.set position (.holding (lostResponse id)) }
  | forwarded {position : Nat} {response : Response}
      (hforwarder : before.forwarders[position]? = some (.holding response))
      (hroom : before.hasRoom = true) :
      Moves fixed before (.forward position)
        ({ before with forwarders := before.forwarders.eraseIdx position }.put response)
  | wrote {response : Response} {rest : List Response}
      (houtbox : before.outbox = response :: rest) (hopen : before.closed = false) :
      Moves fixed before .write
        { before with outbox := rest, written := before.written ++ [response] }
  | broke {response : Response} {rest : List Response}
      (houtbox : before.outbox = response :: rest) (hclosed : before.closed = true) :
      Moves fixed before .write { before with outbox := [], broken := true }
  | acted {step : ActorMove} {next : Actor σ α}
      (hmove : before.actor.move? fixed.host fixed.compiler.sources step = some next) :
      Moves fixed before (.act step) { before with actor := next }

variable {fixed : ServerContext σ α} {before after : Server σ α}

theorem moves_read (hmove : before.move? fixed .read = some after) :
    Moves fixed before .read after := by
  simp only [move?] at hmove
  split at hmove
  · rename_i text rest hready hheeding hframes
    have hreads : before.Reads text rest := ⟨hready, hheeding, hframes⟩
    simp only [readLine] at hmove
    split at hmove <;> rename_i hline <;> cases hmove
    · exact .skipped hreads hline
    · exact .garbled hreads hline
    · exact .asked hreads hline
  · rename_i hready _ hframes
    split at hmove
    · cases hmove
    · rename_i hawaiting
      cases hmove
      exact .ended hready (Or.inr (Or.inr ⟨hframes, Bool.eq_false_iff.2 hawaiting⟩))
  · rename_i hready hline hnone
    cases hmove
    apply Moves.ended hready
    cases hcancelled : before.cancelled with
    | true => exact Or.inl hcancelled
    | false =>
        cases hframes : before.frames with
        | nil => exact absurd hframes (hnone hcancelled)
        | cons frame rest =>
            cases frame with
            | line text => exact absurd hframes (hline text rest hcancelled)
            | notText => exact Or.inr (Or.inl ⟨rest, hframes⟩)
  · cases hmove

theorem moves_post (hmove : before.move? fixed .post = some after) :
    Moves fixed before .post after := by
  simp only [move?] at hmove
  split at hmove
  · rename_i id params hreader
    cases hopen : before.actor.isOpen with
    | false =>
        simp only [hopen, Bool.not_false, if_true] at hmove
        cases hmove
        exact .refused hreader hopen
    | true =>
        simp only [hopen, Bool.not_true, Bool.false_eq_true, if_false] at hmove
        split at hmove
        · rename_i hroom
          cases hmove
          simp only [Actor.send, hopen, if_true]
          exact .posted hreader hopen hroom
        · cases hmove
  · cases hmove

theorem moves_collect {position : Nat}
    (hmove : before.move? fixed (.collect position) = some after) :
    Moves fixed before (.collect position) after := by
  simp only [move?] at hmove
  split at hmove
  · rename_i ticket id hforwarder
    split at hmove
    · rename_i reply hreply
      cases hmove
      exact .collected hforwarder hreply
    · split at hmove
      · rename_i hlost
        cases hmove
        exact .lost hforwarder hlost
      · cases hmove
  · cases hmove

/-- Whatever the server does is one of its moves. -/
theorem moves_of_move? {move : ServerMove} (hmove : before.move? fixed move = some after) :
    Moves fixed before move after := by
  cases move with
  | read => exact moves_read hmove
  | post => exact moves_post hmove
  | answer =>
      simp only [move?] at hmove
      split at hmove
      · rename_i response hreader
        split at hmove
        · rename_i hroom
          cases hmove
          exact .answered hreader hroom
        · cases hmove
      · cases hmove
  | collect position => exact moves_collect hmove
  | forward position =>
      simp only [move?] at hmove
      split at hmove
      · rename_i response hforwarder
        split at hmove
        · rename_i hroom
          cases hmove
          exact .forwarded hforwarder hroom
        · cases hmove
      · cases hmove
  | write =>
      simp only [move?] at hmove
      split at hmove
      · cases hmove
      · rename_i response rest houtbox
        split at hmove
        · rename_i hclosed
          cases hmove
          exact .broke houtbox hclosed
        · rename_i hopen
          cases hmove
          exact .wrote houtbox (Bool.eq_false_iff.2 hopen)
  | act step =>
      obtain ⟨next, hnext, rfl⟩ := Option.map_eq_some_iff.1 hmove
      exact .acted hnext

end Server

/-! ## The work that is left -/

/-- The moves that a phase of the actor leaves. -/
def Phase.weight : Phase → Nat
  | .running => 2
  | .draining => 1
  | .stopped => 0

/-- A message costs two moves, one to take it and one for its job. -/
def Actor.weight (actor : Actor σ α) : Nat :=
  2 * actor.mailbox.length + actor.inFlight.length + actor.phase.weight

/-- The moves that the reader causes before it looks at the next line. -/
def Reader.weight : Reader → Nat
  | .ready => 1
  | .posting _ _ => 7
  | .answering _ => 3
  | .finished => 0

/-- A reply is to be collected, forwarded and written. -/
def Forwarder.weight : Forwarder → Nat
  | .waiting _ _ => 3
  | .holding _ => 2

/-- A number of moves that the server cannot exceed without anything new to do. -/
def Server.weight (server : Server σ α) : Nat :=
  7 * server.frames.length + server.reader.weight + (server.forwarders.map Forwarder.weight).sum
    + server.outbox.length + server.actor.weight

/-- Every move of an actor is a step of some history of it. -/
theorem History.step_of_move? {host : Host σ α} {kinds : SourceKinds} {actor next : Actor σ α}
    {step : ActorMove} (hmove : actor.move? host kinds step = some next) :
    ∃ before after : History σ α, Step host kinds before (.move step) after ∧
      before.actor = actor ∧ after.actor = next := by
  refine ⟨⟨actor, [], [], [], none⟩, record ⟨actor, [], [], [], none⟩ step next, ?_, rfl, rfl⟩
  apply step_of_next?
  simp only [next?, hmove, Option.map_some]

theorem Actor.weight_move? {host : Host σ α} {kinds : SourceKinds} {actor next : Actor σ α}
    {step : ActorMove} (hmove : actor.move? host kinds step = some next) :
    next.weight < actor.weight := by
  obtain ⟨before, after, hstep, rfl, rfl⟩ := History.step_of_move? hmove
  cases hstep with
  | rejected htakes | started htakes | shown htakes | told htakes =>
      simp only [weight, htakes.waiting, List.length_cons, List.length_append, List.length_nil]
      omega
  | finished hjob =>
      obtain ⟨hlt, -⟩ := List.getElem?_eq_some_iff.1 hjob
      simp only [weight, List.length_eraseIdx, hlt, if_true]
      omega
  | drained hrunning =>
      simp only [weight, Phase.weight, hrunning]
      omega
  | stopped hdraining =>
      simp only [weight, Phase.weight, hdraining]
      omega

/-- No move drops the last handle of the actor. -/
theorem Actor.abandoned_move? {host : Host σ α} {kinds : SourceKinds} {actor next : Actor σ α}
    {step : ActorMove} (hmove : actor.move? host kinds step = some next) :
    next.abandoned = actor.abandoned := by
  obtain ⟨before, after, hstep, rfl, rfl⟩ := History.step_of_move? hmove
  cases hstep <;> rfl

namespace Server

variable {fixed : ServerContext σ α} {before after : Server σ α}

/-- Handing a response to the writer changes the outbox at most. -/
theorem put_eq (server : Server σ α) (response : Response) :
    server.put response =
      { server with
        outbox := if server.broken then server.outbox else server.outbox ++ [response] } := by
  simp only [put]
  split <;> rfl

theorem weight_put (server : Server σ α) (response : Response) :
    (server.put response).weight ≤ server.weight + 1 := by
  simp only [put]
  split
  · exact Nat.le_succ _
  · simp only [weight, List.length_append, List.length_singleton]
    omega

/-- A forwarder that gets its reply has one move less to make. -/
theorem sum_weight_set {forwarders : List Forwarder} {position : Nat} {ticket : Ticket}
    {id : String} (hforwarder : forwarders[position]? = some (.waiting ticket id))
    (response : Response) :
    ((forwarders.set position (.holding response)).map Forwarder.weight).sum + 1 =
      (forwarders.map Forwarder.weight).sum := by
  induction forwarders generalizing position with
  | nil => cases hforwarder
  | cons first rest ih =>
      cases position with
      | zero =>
          cases hforwarder
          simp only [List.set_cons_zero, List.map_cons, List.sum_cons, Forwarder.weight]
          omega
      | succ position =>
          rw [List.getElem?_cons_succ] at hforwarder
          have hrest := ih hforwarder
          simp only [List.set_cons_succ, List.map_cons, List.sum_cons]
          omega

/-- A forwarder that handed its response over has no move left. -/
theorem sum_weight_eraseIdx {forwarders : List Forwarder} {position : Nat}
    {response : Response} (hforwarder : forwarders[position]? = some (.holding response)) :
    ((forwarders.eraseIdx position).map Forwarder.weight).sum + 2 =
      (forwarders.map Forwarder.weight).sum := by
  induction forwarders generalizing position with
  | nil => cases hforwarder
  | cons first rest ih =>
      cases position with
      | zero =>
          cases hforwarder
          simp only [List.eraseIdx_zero, List.tail_cons, List.map_cons, List.sum_cons,
            Forwarder.weight]
          omega
      | succ position =>
          rw [List.getElem?_cons_succ] at hforwarder
          have hrest := ih hforwarder
          simp only [List.eraseIdx_cons_succ, List.map_cons, List.sum_cons]
          omega

/-- Every move uses up some of the work that is left. -/
theorem Moves.weight_lt {move : ServerMove} (hmoves : Moves fixed before move after) :
    after.weight < before.weight := by
  cases hmoves with
  | skipped hreads =>
      simp only [weight, hreads.next, List.length_cons]
      omega
  | garbled hreads | asked hreads =>
      simp only [weight, hreads.next, hreads.ready, List.length_cons, Reader.weight]
      omega
  | ended hready =>
      simp only [weight, hready, Reader.weight]
      omega
  | refused hreader =>
      simp only [weight, hreader, Reader.weight]
      omega
  | posted hreader =>
      simp only [weight, Actor.weight, hreader, Reader.weight, List.length_append,
        List.length_singleton, List.map_append, List.map_cons, List.map_nil, List.sum_append,
        List.sum_cons, List.sum_nil, Forwarder.weight]
      omega
  | @answered response hreader =>
      have hput := weight_put { before with reader := .ready } response
      simp only [weight, hreader, Reader.weight] at hput ⊢
      omega
  | @collected position ticket id reply hforwarder =>
      have hsum := sum_weight_set hforwarder ⟨id, reply⟩
      simp only [weight] at hsum ⊢
      omega
  | @lost position ticket id hforwarder =>
      have hsum := sum_weight_set hforwarder (lostResponse id)
      simp only [weight] at hsum ⊢
      omega
  | @forwarded position response hforwarder =>
      have hput := weight_put
        { before with forwarders := before.forwarders.eraseIdx position } response
      have hsum := sum_weight_eraseIdx hforwarder
      simp only [weight] at hput ⊢
      omega
  | wrote houtbox | broke houtbox =>
      simp only [weight, houtbox, List.length_cons, List.length_nil]
      omega
  | acted hmove =>
      have hactor := Actor.weight_move? hmove
      simp only [weight]
      omega

/-- What the server was told is still so, and its writer has not given up unless nobody reads
the responses. -/
structure Steady (before after : Server σ α) : Prop where
  awaiting : after.awaiting = before.awaiting
  cancelled : after.cancelled = before.cancelled
  closed : after.closed = before.closed
  broken : before.closed = false → after.broken = before.broken

theorem Moves.steady {move : ServerMove} (hmoves : Moves fixed before move after) :
    before.Steady after := by
  cases hmoves with
  | answered | forwarded =>
      rw [put_eq]
      exact ⟨rfl, rfl, rfl, fun _ => rfl⟩
  | broke _ hclosed =>
      refine ⟨rfl, rfl, rfl, fun hopen => ?_⟩
      rw [hopen] at hclosed
      cases hclosed
  | skipped | garbled | asked | ended | refused | posted | collected | lost | wrote | acted =>
      exact ⟨rfl, rfl, rfl, fun _ => rfl⟩

/-! ## Coming to rest -/

/-- The server after some moves, if they are possible in this order. -/
def moves? (fixed : ServerContext σ α) : Server σ α → List ServerMove → Option (Server σ α)
  | server, [] => some server
  | server, move :: rest =>
    match server.move? fixed move with
    | some next => moves? fixed next rest
    | none => none

/-- No move is possible. -/
def AtRest (fixed : ServerContext σ α) (server : Server σ α) : Prop :=
  ∀ move, server.move? fixed move = none

theorem moves?_cons {move : ServerMove} {rest : List ServerMove} :
    before.moves? fixed (move :: rest) = some after ↔
      ∃ next, before.move? fixed move = some next ∧ next.moves? fixed rest = some after := by
  simp only [moves?]
  cases before.move? fixed move with
  | none => simp
  | some next => simp

theorem steady_moves? {moves : List ServerMove} (hmoves : before.moves? fixed moves = some after) :
    before.Steady after := by
  induction moves generalizing before with
  | nil =>
      cases hmoves
      exact ⟨rfl, rfl, rfl, fun _ => rfl⟩
  | cons move rest ih =>
      obtain ⟨next, hmove, hrest⟩ := moves?_cons.1 hmoves
      have hfirst := (moves_of_move? hmove).steady
      have hlater := ih hrest
      exact {
        awaiting := hlater.awaiting.trans hfirst.awaiting
        cancelled := hlater.cancelled.trans hfirst.cancelled
        closed := hlater.closed.trans hfirst.closed
        broken := fun hopen =>
          (hlater.broken (hfirst.closed.trans hopen)).trans (hfirst.broken hopen) }

/-- A server that is given nothing more to do makes a bounded number of moves. -/
theorem length_add_weight_le {moves : List ServerMove}
    (hmoves : before.moves? fixed moves = some after) :
    moves.length + after.weight ≤ before.weight := by
  induction moves generalizing before with
  | nil =>
      cases hmoves
      simp
  | cons move rest ih =>
      obtain ⟨next, hmove, hrest⟩ := moves?_cons.1 hmoves
      have hlt := (moves_of_move? hmove).weight_lt
      have hle := ih hrest
      rw [List.length_cons]
      omega

/-- A possible move is among those that are tried. -/
theorem mem_urgency {move : ServerMove} (hmove : before.move? fixed move = some after) :
    move ∈ before.urgency := by
  have hmoves := moves_of_move? hmove
  simp only [urgency, List.mem_append, List.mem_cons, List.mem_map, List.mem_range]
  cases hmoves with
  | collected hforwarder | lost hforwarder | forwarded hforwarder =>
      obtain ⟨hlt, -⟩ := List.getElem?_eq_some_iff.1 hforwarder
      simp [hlt]
  | @acted step next hstep =>
      cases step with
      | finish position =>
          simp only [Actor.move?] at hstep
          split at hstep
          · rename_i hjob
            obtain ⟨hlt, -⟩ := List.getElem?_eq_some_iff.1 hjob
            simp [hlt]
          · cases hstep
      | take | drain | stop => simp
  | skipped | garbled | asked | ended | refused | posted | answered | wrote | broke => simp

/-- A run with enough fuel comes to rest, and gets there by moves. -/
theorem run_atRest {fuel : Nat} {server : Server σ α} (henough : server.weight ≤ fuel) :
    (server.run fixed fuel).AtRest fixed ∧
      ∃ moves, server.moves? fixed moves = some (server.run fixed fuel) := by
  induction fuel generalizing server with
  | zero =>
      refine ⟨fun move => ?_, [], rfl⟩
      cases hmove : server.move? fixed move with
      | none => exact hmove
      | some next =>
          have hlt := (moves_of_move? hmove).weight_lt
          omega
  | succ fuel ih =>
      simp only [run]
      split
      · rename_i next hfound
        obtain ⟨move, -, hmove⟩ := List.exists_of_findSome?_eq_some hfound
        have hlt := (moves_of_move? hmove).weight_lt
        have hle : next.weight ≤ fuel := by omega
        obtain ⟨hrest, moves, hmoves⟩ := ih hle
        exact ⟨hrest, move :: moves, moves?_cons.2 ⟨next, hmove, hmoves⟩⟩
      · rename_i hnone
        refine ⟨fun move => ?_, [], rfl⟩
        cases hmove : server.move? fixed move with
        | none => rfl
        | some next =>
            have hne := List.findSome?_eq_none_iff.1 hnone move (mem_urgency hmove)
            rw [hmove] at hne
            cases hne

theorem weight_le_enough (server : Server σ α) : server.weight ≤ server.enough := by
  have hforwarders :
      (server.forwarders.map Forwarder.weight).sum ≤ 3 * server.forwarders.length := by
    generalize server.forwarders = forwarders
    induction forwarders with
    | nil => exact Nat.le_refl 0
    | cons first rest ih =>
        rw [List.map_cons, List.sum_cons, List.length_cons]
        cases first <;> simp only [Forwarder.weight] <;> omega
  have hreader : server.reader.weight ≤ 7 := by
    cases server.reader <;> simp [Reader.weight]
  have hphase : server.actor.phase.weight ≤ 2 := by
    cases server.actor.phase <;> simp [Phase.weight]
  simp only [weight, Actor.weight, enough]
  omega

/-- Serving comes to rest. -/
theorem serve_atRest (fixed : ServerContext σ α) (server : Server σ α) :
    (server.serve fixed).AtRest fixed ∧
      ∃ moves, server.moves? fixed moves = some (server.serve fixed) :=
  run_atRest server.weight_le_enough

end Server

end CompileServer
