import CompileServer.Proofs.Server.Pairing
import CompileServer.Proofs.Server.Transcript

/-!
# Slips

Every line that asks for something leaves one slip in the server: first with the reader,
then with a forwarder, in the outbox and among the responses that were written.  A slip is
handed on and never copied or dropped, so lines and slips stay paired, and what a line has
been given as its response stays right whatever happens later.
-/

namespace CompileServer

variable {σ α : Type}

/-- What the server keeps of a line that asks for something. -/
inductive Slip where
  /-- The request is to be passed on to the actor. -/
  | posting (ticket : Ticket) (id : String) (params : Json)
  /-- The reply is still to come. -/
  | waiting (ticket : Ticket) (id : String)
  /-- The response is known. -/
  | ready (response : Response)

/-- The slip that the reader holds, which has read so many requests. -/
def Reader.slips (requests : Nat) : Reader → List Slip
  | .ready => []
  | .posting id params => [.posting (requests - 1) id params]
  | .answering response => [.ready response]
  | .finished => []

/-- The slip that a forwarder holds. -/
def Forwarder.slip : Forwarder → Slip
  | .waiting ticket id => .waiting ticket id
  | .holding response => .ready response

/-- The slips that are not with the reader any more. -/
def Server.handedOn (server : Server σ α) : List Slip :=
  server.forwarders.map Forwarder.slip ++ server.outbox.map .ready ++ server.written.map .ready

/-- All the slips. -/
def Transcript.slips (transcript : Transcript σ α) : List Slip :=
  transcript.server.handedOn ++
    transcript.server.reader.slips (Entry.requests transcript.lines).length

namespace Transcript

/-- A response settles a line: that the line is no request, the reply of the actor
to the request, that the actor was gone when the request should have been passed on, or that
it was gone before it took the request. -/
inductive Settles (fixed : ServerContext σ α) (transcript : Transcript σ α) :
    Entry → Response → Prop where
  | faulty {position : Nat} {ticket : Ticket} {failure : Json.Failure} :
      Settles fixed transcript ⟨position, ticket, .faulty failure⟩
        (Server.faultyResponse failure)
  | replied {position : Nat} {ticket : Ticket} {request : Request} {reply : Reply}
      (harrived : .compile ticket request.params ∈ transcript.history.arrived)
      (hreply : transcript.server.actor.replyTo? ticket = some reply)
      (hgiven : RepliesTo fixed.host fixed.compiler.sources request.params reply) :
      Settles fixed transcript ⟨position, ticket, .request request⟩
        ⟨request.id.getD (fixed.freshId position), reply⟩
  | refused {position : Nat} {ticket : Ticket} {request : Request}
      (hunsent : transcript.server.sent ≤ ticket)
      (hstopped : transcript.server.actor.phase = .stopped) :
      Settles fixed transcript ⟨position, ticket, .request request⟩
        (Server.refusedResponse (request.id.getD (fixed.freshId position)))
  | lost {position : Nat} {ticket : Ticket} {request : Request}
      (harrived : .compile ticket request.params ∈ transcript.history.arrived)
      (hlost : transcript.server.actor.isLost ticket = true) :
      Settles fixed transcript ⟨position, ticket, .request request⟩
        (Server.lostResponse (request.id.getD (fixed.freshId position)))

/-- A slip belongs to a line. -/
inductive Fits (fixed : ServerContext σ α) (transcript : Transcript σ α) :
    Entry → Slip → Prop where
  | posting {position : Nat} {ticket : Ticket} {request : Request} :
      Fits fixed transcript ⟨position, ticket, .request request⟩
        (.posting ticket (request.id.getD (fixed.freshId position)) request.params)
  | waiting {position : Nat} {ticket : Ticket} {request : Request}
      (harrived : .compile ticket request.params ∈ transcript.history.arrived) :
      Fits fixed transcript ⟨position, ticket, .request request⟩
        (.waiting ticket (request.id.getD (fixed.freshId position)))
  | ready {entry : Entry} {response : Response}
      (hsettles : Settles fixed transcript entry response) :
      Fits fixed transcript entry (.ready response)

/-- What was known of the actor is still known. -/
structure Later (before after : Transcript σ α) : Prop where
  arrived : ∀ message ∈ before.history.arrived, message ∈ after.history.arrived
  replies : ∀ ticket reply, before.server.actor.replyTo? ticket = some reply →
    after.server.actor.replyTo? ticket = some reply
  stopped : before.server.actor.phase = .stopped →
    after.server.actor.phase = .stopped ∧ after.server.sent = before.server.sent
  lost : ∀ ticket, before.server.actor.isLost ticket = true →
    after.server.actor.isLost ticket = true

variable {fixed : ServerContext σ α} {before after : Transcript σ α} {entry : Entry}

theorem Later.of_same (harrived : after.history.arrived = before.history.arrived)
    (hactor : after.server.actor = before.server.actor)
    (hsent : after.server.sent = before.server.sent) : before.Later after where
  arrived _ hmem := harrived ▸ hmem
  replies _ _ hreply := hactor ▸ hreply
  stopped hstopped := ⟨hactor ▸ hstopped, hsent⟩
  lost _ hlost := hactor ▸ hlost

theorem Later.settles (hlater : before.Later after) {response : Response}
    (hsettles : Settles fixed before entry response) : Settles fixed after entry response := by
  cases hsettles with
  | faulty => exact .faulty
  | replied harrived hreply hgiven =>
      exact .replied (hlater.arrived _ harrived) (hlater.replies _ _ hreply) hgiven
  | refused hunsent hstopped =>
      obtain ⟨hstill, hsent⟩ := hlater.stopped hstopped
      exact .refused (hsent ▸ hunsent) hstill
  | lost harrived hlost => exact .lost (hlater.arrived _ harrived) (hlater.lost _ hlost)

theorem Later.fits (hlater : before.Later after) {slip : Slip}
    (hfits : Fits fixed before entry slip) : Fits fixed after entry slip := by
  cases hfits with
  | posting => exact .posting
  | waiting harrived => exact .waiting (hlater.arrived _ harrived)
  | ready hsettles => exact .ready (hlater.settles hsettles)

end Transcript

/-! ## Handing slips on -/

section HandingOn

variable {before after : Server σ α} {position : Nat} {forwarder : Forwarder}

/-- One forwarder hands its slip on or changes it. -/
theorem perm_handedOn (hforwarder : before.forwarders[position]? = some forwarder) :
    before.handedOn.Perm
      (forwarder.slip :: { before with
        forwarders := before.forwarders.eraseIdx position }.handedOn) := by
  obtain ⟨hlt, rfl⟩ := List.getElem?_eq_some_iff.1 hforwarder
  have hperm := (List.getElem_cons_eraseIdx_perm hlt).symm.map Forwarder.slip
  exact (hperm.append_right _).append_right _

theorem perm_handedOn_set (hforwarder : before.forwarders[position]? = some forwarder)
    (other : Forwarder) :
    { before with forwarders := before.forwarders.set position other }.handedOn.Perm
      (other.slip :: { before with
        forwarders := before.forwarders.eraseIdx position }.handedOn) := by
  obtain ⟨hlt, -⟩ := List.getElem?_eq_some_iff.1 hforwarder
  have hperm := (List.set_perm_cons_eraseIdx hlt other).map Forwarder.slip
  exact (hperm.append_right _).append_right _

/-- The slip of a response that was handed to the writer. -/
theorem perm_handedOn_put (response : Response) :
    { before with outbox := before.outbox ++ [response] }.handedOn.Perm
      (before.handedOn ++ [Slip.ready response]) := by
  classical
  apply List.perm_iff_count.2
  intro slip
  simp only [Server.handedOn, List.map_append, List.map_cons, List.map_nil, List.count_append]
  omega

/-- The slip of a response that is written. -/
theorem perm_handedOn_write {response : Response} {rest : List Response}
    (houtbox : before.outbox = response :: rest) :
    before.handedOn.Perm
      { before with outbox := rest, written := before.written ++ [response] }.handedOn := by
  classical
  apply List.perm_iff_count.2
  intro slip
  simp only [Server.handedOn, houtbox, List.map_append, List.map_cons, List.map_nil,
    List.count_append, List.count_cons, List.count_nil]
  omega

/-- The slip of a request that was passed on. -/
theorem perm_handedOn_post (forwarder : Forwarder) :
    { before with forwarders := before.forwarders ++ [forwarder] }.handedOn.Perm
      (before.handedOn ++ [forwarder.slip]) := by
  classical
  apply List.perm_iff_count.2
  intro slip
  simp only [Server.handedOn, List.map_append, List.map_cons, List.map_nil, List.count_append]
  omega

end HandingOn

end CompileServer
