import CompileServer.Proofs.Server.Framing
import CompileServer.Proofs.Server.Undisturbed
import Mathlib.Data.List.TakeWhile

/-!
# Malformed lines

A line of text that is no request costs only itself: it gets its own response, and all other
lines get the responses that they get without it.  A line that is no text ends the reading, so
everything after it is lost.
-/

namespace CompileServer

variable {σ α : Type}

/-! ## Input without malformed lines -/

namespace Incoming

/-- Why a line is no request. -/
def failure? : Incoming → Option Json.Failure
  | .faulty failure => some failure
  | _ => none

/-- The request that a line is. -/
def request? : Incoming → Option Request
  | .request found => some found
  | _ => none

end Incoming

namespace Frame

/-- The line is no text, or it is no request though it is not blank. -/
def isMalformed : Frame → Bool
  | .line text => (Incoming.ofLine text).failure?.isSome
  | .notText => true

/-- The lines before the first one that is no text, without those that are malformed. -/
def withoutMalformed (bytes : List UInt8) : List UInt8 :=
  terminated (((linesOf bytes).takeWhile fun line => (ofPiece line).text?.isSome).filter
    fun line => !(ofPiece line).isMalformed)

theorem ofBytes_withoutMalformed (bytes : List UInt8) :
    ofBytes (withoutMalformed bytes) =
      ((ofBytes bytes).takeWhile fun frame => frame.text?.isSome).filter
        fun frame => !frame.isMalformed := by
  have hlines : ∀ line ∈ ((linesOf bytes).takeWhile fun line =>
      (ofPiece line).text?.isSome).filter fun line => !(ofPiece line).isMalformed,
      0x0a ∉ line := by
    intro line hmem
    exact not_mem_of_mem_linesOf ((List.takeWhile_sublist _).mem (List.mem_of_mem_filter hmem))
  rw [ofBytes_eq, ofBytes_eq, withoutMalformed, linesOf_terminated hlines, List.takeWhile_map,
    List.filter_map]
  rfl

end Frame

/-! ## The requests among the lines -/

namespace Entry

/-- The lines that are requests. -/
def asking (lines : List String) : List Entry :=
  (ofLines lines).filter fun entry => entry.request?.isSome

/-- The same request, maybe on another line. -/
def SameRequest (left right : Entry) : Prop :=
  left.ticket = right.ticket ∧ left.incoming = right.incoming

theorem asking_concat (lines : List String) (text : String) :
    asking (lines ++ [text]) = asking lines ++
      match Incoming.ofLine text with
      | .request request =>
        [⟨(ofLines lines).length, (requests lines).length, .request request⟩]
      | _ => [] := by
  cases hline : Incoming.ofLine text with
  | blank => rw [asking, ofLines_blank hline, List.append_nil, asking]
  | faulty failure =>
      rw [asking, ofLines_faulty hline, List.filter_append]
      rfl
  | request request =>
      rw [asking, ofLines_request hline, List.filter_append]
      rfl

theorem length_asking (lines : List String) : (asking lines).length = (requests lines).length := by
  rw [asking, requests]
  induction ofLines lines with
  | nil => rfl
  | cons entry rest ih =>
      cases hrequest : entry.request? with
      | none =>
          rw [List.filter_cons_of_neg (by simp [hrequest]), List.filterMap_cons_none hrequest, ih]
      | some request =>
          rw [List.filter_cons_of_pos (by simp [hrequest]), List.filterMap_cons_some hrequest,
            List.length_cons, List.length_cons, ih]

/-- Leaving malformed lines out leaves the requests and their numbers as they are. -/
theorem asking_filter (lines : List String) :
    List.Forall₂ SameRequest (asking lines)
      (asking (lines.filter fun text => !(Frame.line text).isMalformed)) := by
  induction lines using List.reverseRecOn with
  | nil => exact .nil
  | append_singleton lines text ih =>
      have hlength : (requests lines).length =
          (requests (lines.filter fun text => !(Frame.line text).isMalformed)).length := by
        rw [← length_asking, ← length_asking, ih.length_eq]
      rw [List.filter_append, asking_concat]
      cases hline : Incoming.ofLine text with
      | faulty failure =>
          simpa [Frame.isMalformed, hline, Incoming.failure?] using ih
      | blank =>
          have hkept : [text].filter (fun text => !(Frame.line text).isMalformed) = [text] := by
            simp [Frame.isMalformed, hline, Incoming.failure?]
          rw [hkept, asking_concat, hline]
          exact List.rel_append ih .nil
      | request request =>
          have hkept : [text].filter (fun text => !(Frame.line text).isMalformed) = [text] := by
            simp [Frame.isMalformed, hline, Incoming.failure?]
          rw [hkept, asking_concat, hline]
          exact List.rel_append ih (.cons ⟨hlength, rfl⟩ .nil)

theorem filterMap_asking {β : Type} {give : Entry → Option β} (lines : List String)
    (hgive : ∀ entry, entry.request? = none → give entry = none) :
    (asking lines).filterMap give = (ofLines lines).filterMap give := by
  rw [asking, List.filterMap_filter]
  congr 1
  funext entry
  cases hrequest : entry.request? with
  | none => simp [hgive entry hrequest]
  | some => simp

/-- What depends on a request and its number alone is the same for the same requests. -/
theorem filterMap_of_sameRequest {β : Type} {give : Entry → Option β} {left right : List Entry}
    (hsame : List.Forall₂ SameRequest left right)
    (hgive : ∀ a b, SameRequest a b → give a = give b) :
    left.filterMap give = right.filterMap give := by
  induction hsame with
  | nil => rfl
  | cons hfirst _ ih => rw [List.filterMap_cons, List.filterMap_cons, hgive _ _ hfirst, ih]

theorem requests_filter (lines : List String) :
    requests (lines.filter fun text => !(Frame.line text).isMalformed) = requests lines := by
  have hrequests : ∀ lines, requests lines = (asking lines).filterMap request? := fun lines =>
    (filterMap_asking lines fun _ => id).symm
  rw [hrequests, hrequests]
  refine (filterMap_of_sameRequest (asking_filter lines) fun a b hsame => ?_).symm
  simp only [request?, hsame.1, hsame.2]

end Entry

/-! ## The responses -/

/-- A request with its reply. -/
def Entry.granted? (replies : Ticket → Option Reply) (entry : Entry) : Option (Request × Reply) :=
  entry.incoming.request?.bind fun request => (replies entry.ticket).map (Prod.mk request)

/-- A response gives a request its reply, under an identifier that is made up if the request
has none. -/
def Response.Grants (freshId : Nat → String) (asked : Request × Reply) (response : Response) :
    Prop :=
  ∃ position, response = ⟨asked.1.id.getD (freshId position), asked.2⟩

/-- The responses to the malformed lines. -/
def Server.faults (lines : List String) : List Response :=
  (lines.filterMap fun text => (Incoming.ofLine text).failure?).map faultyResponse

/-- The responses to lines that ask for something are those to the malformed ones and those to
the requests. -/
theorem Entry.perm_faults {freshId : Nat → String} {replies : Ticket → Option Reply}
    {entries : List Entry} {responses : List Response}
    (hresponses : List.Forall₂
      (fun entry response => Entry.response? freshId replies entry = some response)
      entries responses) :
    ∃ others,
      responses.Perm
        ((entries.filterMap fun entry => entry.incoming.failure?).map Server.faultyResponse ++
          others) ∧
      (entries.filterMap (granted? replies)).map Prod.fst =
        entries.filterMap (fun entry => entry.incoming.request?) ∧
      List.Forall₂ (Response.Grants freshId) (entries.filterMap (granted? replies)) others := by
  induction hresponses with
  | nil => exact ⟨[], .nil, rfl, .nil⟩
  | @cons entry response entries responses hfirst _ ih =>
      obtain ⟨others, hperm, hrequests, hgrants⟩ := ih
      obtain ⟨position, ticket, incoming⟩ := entry
      cases incoming with
      | blank => cases hfirst
      | faulty failure =>
          cases hfirst
          exact ⟨others, hperm.cons _, hrequests, hgrants⟩
      | request request =>
          obtain ⟨reply, hreply, rfl⟩ := Option.map_eq_some_iff.1 hfirst
          have hgranted : granted? replies ⟨position, ticket, .request request⟩ =
              some (request, reply) := by
            simp only [granted?, Incoming.request?, Option.bind_some, hreply, Option.map_some]
          rw [List.filterMap_cons_some hgranted]
          exact ⟨_ :: others, (hperm.cons _).trans List.perm_middle.symm,
            congrArg (request :: ·) hrequests, .cons ⟨position, rfl⟩ hgrants⟩

/-- What is the same whatever a line is preceded by can be read off the lines. -/
theorem Entry.filterMap_ofLines {β : Type} {give : Incoming → Option β}
    (hblank : give .blank = none) (lines : List String) :
    (ofLines lines).filterMap (fun entry => give entry.incoming) =
      lines.filterMap fun text => give (Incoming.ofLine text) := by
  induction lines using List.reverseRecOn with
  | nil => rfl
  | append_singleton lines text ih =>
      rw [List.filterMap_append, ← ih]
      cases hline : Incoming.ofLine text with
      | blank =>
          rw [ofLines_blank hline]
          simp only [List.filterMap_cons, hline, hblank, List.filterMap_nil, List.append_nil]
      | faulty failure =>
          rw [ofLines_faulty hline, List.filterMap_append]
          simp only [List.filterMap_cons, hline, List.filterMap_nil]
      | request request =>
          rw [ofLines_request hline, List.filterMap_append]
          simp only [List.filterMap_cons, hline, List.filterMap_nil]

namespace Transcript

variable {fixed : ServerContext σ α} {world : σ} {bytes : List UInt8}
  {transcript dirty clean : Transcript σ α}

/-- The requests of an undisturbed run, with the replies that they get when they are handled one
at a time. -/
def granted (fixed : ServerContext σ α) (world : σ) (lines : List String) :
    List (Request × Reply) :=
  (Entry.ofLines lines).filterMap <| Entry.granted? <|
    Session.replyAt? fixed.host fixed.compiler.sources world
      ((Entry.requests lines).map Prod.snd)

/-- Malformed lines do not change what requests are granted. -/
theorem granted_filter (lines : List String) :
    granted fixed world (lines.filter fun text => !(Frame.line text).isMalformed) =
      granted fixed world lines := by
  have hgranted : ∀ (replies : Ticket → Option Reply) (entry : Entry),
      entry.request? = none → entry.granted? replies = none := by
    intro replies entry hrequest
    obtain ⟨position, ticket, incoming⟩ := entry
    cases incoming with
    | blank | faulty => rfl
    | request => cases hrequest
  rw [granted, granted, Entry.requests_filter, ← Entry.filterMap_asking _ (hgranted _),
    ← Entry.filterMap_asking _ (hgranted _)]
  refine (Entry.filterMap_of_sameRequest (Entry.asking_filter lines) fun a b hsame => ?_).symm
  simp only [Entry.granted?, hsame.1, hsame.2]

/-- An undisturbed server that is done has written the responses to the malformed lines and
those to the requests. -/
theorem Undisturbed.written_perm_faults {answers : Answers α} {saving : Saving σ}
    (hfixed : fixed.host = answers.host saving)
    (hundisturbed : transcript.Undisturbed fixed world)
    (hdone : transcript.server.isDone = true) :
    ∃ others,
      transcript.server.written.Perm (Server.faults transcript.lines ++ others) ∧
      (granted fixed world transcript.lines).map Prod.fst =
        transcript.lines.filterMap (fun text => (Incoming.ofLine text).request?) ∧
      List.Forall₂ (Response.Grants fixed.freshId) (granted fixed world transcript.lines)
        others := by
  obtain ⟨responses, hwritten, hresponses⟩ := hundisturbed.written_perm hdone fun _ _ hreply =>
    hundisturbed.replyAt?_of_replyTo? hfixed hdone hreply
  obtain ⟨others, hperm, hrequests, hgrants⟩ := Entry.perm_faults hresponses
  rw [Entry.filterMap_ofLines rfl] at hperm hrequests
  exact ⟨others, hwritten.trans hperm, hrequests, hgrants⟩

/-- Without the malformed lines, a server reads the same other lines. -/
theorem lines_withoutMalformed
    (hdirty : dirty.lines.map .line = (Frame.ofBytes bytes).takeWhile fun frame =>
      frame.text?.isSome)
    (hclean : clean.lines.map .line =
      (Frame.ofBytes (Frame.withoutMalformed bytes)).takeWhile fun frame => frame.text?.isSome) :
    clean.lines = dirty.lines.filter fun text => !(Frame.line text).isMalformed := by
  have hinjective : Function.Injective Frame.line := fun _ _ hsame => Frame.line.inj hsame
  apply List.map_injective_iff.2 hinjective
  rw [hclean, Frame.ofBytes_withoutMalformed, ← hdirty, List.filter_map]
  refine List.takeWhile_eq_self_iff.2 fun frame hmem => ?_
  obtain ⟨text, -, rfl⟩ := List.mem_map.1 hmem
  rfl

/-- What malformed lines cost, seen from a run with them and one without.  Everything after
the first line that is no text is lost; before it a malformed line costs only itself. -/
structure MalformedCost (fixed : ServerContext σ α) (bytes : List UInt8)
    (dirty clean : Transcript σ α) : Prop where
  /-- All lines are read up to the first that is no text, which is the end if there is none. -/
  read : dirty.lines.map .line =
    (Frame.ofBytes bytes).takeWhile fun frame => frame.text?.isSome
  counted : dirty.server.outcome =
    .ok (dirty.lines.filter fun text => Text.trim text ≠ "").length
  /-- Each malformed line has its own response, and the requests are granted the same as
  without the malformed lines. -/
  responses : ∃ (granted : List (Request × Reply)) (others alone : List Response),
    granted.map Prod.fst =
      dirty.lines.filterMap (fun text => (Incoming.ofLine text).request?) ∧
    dirty.server.written.Perm (Server.faults dirty.lines ++ others) ∧
    clean.server.written.Perm alone ∧
    List.Forall₂ (Response.Grants fixed.freshId) granted others ∧
    List.Forall₂ (Response.Grants fixed.freshId) granted alone

/-- With fixed answers and without cancellation, a malformed line that is text costs only
itself, and one that is no text costs everything after it. -/
theorem malformedCost_of_completes {answers : Answers α} {saving : Saving σ}
    (hfixed : fixed.host = answers.host saving)
    (hdirty : dirty.Completes fixed world (Frame.ofBytes bytes))
    (hclean : clean.Completes fixed world (Frame.ofBytes (Frame.withoutMalformed bytes))) :
    dirty.MalformedCost fixed bytes clean := by
  obtain ⟨⟨dirtySteps, hdirtyQuiet, hdirtyRun⟩, hdirtyInput, hdirtyDone⟩ := hdirty
  obtain ⟨⟨cleanSteps, hcleanQuiet, hcleanRun⟩, hcleanInput, hcleanDone⟩ := hclean
  have hdirty := (undisturbed_start fixed world).run hdirtyQuiet hdirtyRun
  have hclean := (undisturbed_start fixed world).run hcleanQuiet hcleanRun
  have hread := hdirty.lines_of_isDone hdirtyDone
  have hcleanRead := hclean.lines_of_isDone hcleanDone
  rw [hdirtyInput] at hread
  rw [hcleanInput] at hcleanRead
  have hlines := lines_withoutMalformed hread hcleanRead
  refine ⟨hread, ?_, ?_⟩
  · rw [Server.outcome, hdirty.unbroken, hdirty.counted, Entry.length_ofLines]
    rfl
  · obtain ⟨others, hwritten, hrequests, hgrants⟩ :=
      hdirty.written_perm_faults hfixed hdirtyDone
    obtain ⟨alone, hcleanWritten, -, hcleanGrants⟩ :=
      hclean.written_perm_faults hfixed hcleanDone
    rw [hlines, granted_filter] at hcleanGrants
    have hfaults : Server.faults clean.lines = [] := by
      rw [Server.faults, List.map_eq_nil_iff, List.filterMap_eq_nil_iff, hlines]
      intro text hmem
      simpa [Frame.isMalformed] using (List.mem_filter.1 hmem).2
    rw [hfaults, List.nil_append] at hcleanWritten
    exact ⟨_, others, alone, hrequests, hwritten, hcleanWritten, hgrants, hcleanGrants⟩

/-- A quiet run that is seen to come to its end. -/
theorem exists_completes (fixed : ServerContext σ α) (world : σ) (happenings : List Happening)
    (input : List Frame) (seen : Transcript σ α → Bool)
    (hseen : (happenings.all Happening.isQuiet && ((start world).run? fixed happenings).any
      fun transcript => transcript.server.isDone && (transcript.input == input) &&
        seen transcript) = true) :
    ∃ transcript, transcript.Completes fixed world input ∧ seen transcript = true := by
  obtain ⟨hquiet, hseen⟩ := Bool.and_eq_true_iff.1 hseen
  cases hrun : (start world).run? fixed happenings with
  | none =>
      rw [hrun] at hseen
      cases hseen
  | some transcript =>
      rw [hrun, Option.any_some] at hseen
      simp only [Bool.and_eq_true, beq_iff_eq] at hseen
      obtain ⟨⟨hdone, hinput⟩, hseen⟩ := hseen
      exact ⟨transcript, ⟨⟨happenings, List.all_eq_true.1 hquiet, hrun⟩, hinput, hdone⟩, hseen⟩

/-- A request for a project. -/
def firstRequest : String :=
  "\x7b\"id\":\"a\",\"params\":\x7b\"path\":\"/p/App.fsproj\"\x7d\x7d"

/-- A request for a file of the project. -/
def secondRequest : String :=
  "\x7b\"id\":\"b\",\"params\":\x7b\"path\":\"/p/A.fs\"\x7d\x7d"

/-- The two requests, between them a line that is no request and one that is no text. -/
def spoiledBytes : List UInt8 :=
  Frame.terminated
    [firstRequest.toUTF8.toList, "no request".toUTF8.toList, [0xff], secondRequest.toUTF8.toList]

/-- The two requests alone. -/
def cleanBytes : List UInt8 :=
  Frame.terminated [firstRequest.toUTF8.toList, secondRequest.toUTF8.toList]

theorem ofBytes_spoiledBytes :
    Frame.ofBytes spoiledBytes =
      [.line firstRequest, .line "no request", .notText, .line secondRequest] := by
  decide +kernel

theorem ofBytes_cleanBytes :
    Frame.ofBytes cleanBytes = [.line firstRequest, .line secondRequest] := by
  decide +kernel

theorem ofBytes_withoutMalformed_spoiledBytes :
    Frame.ofBytes (Frame.withoutMalformed spoiledBytes) = [.line firstRequest] := by
  rw [Frame.ofBytes_withoutMalformed, ofBytes_spoiledBytes]
  decide +kernel

/-- The server reads up to the line that is no text, and answers what it has read. -/
theorem completes_spoiledBytes :
    ∃ transcript : Transcript Unit Nat,
      transcript.Completes sampleContext () (Frame.ofBytes spoiledBytes) ∧
      transcript.server.outcome = .ok 2 ∧
      transcript.server.written.map Response.id = ["unknown", "a"] := by
  obtain ⟨transcript, hcompletes, hseen⟩ := exists_completes sampleContext ()
    ([.feed (Frame.ofBytes spoiledBytes), .endInput] ++ List.map .move
      [.read, .post, .read, .answer, .write, .read, .act .take, .act (.finish 0), .collect 0,
        .forward 0, .write])
    (Frame.ofBytes spoiledBytes)
    (fun transcript => !transcript.server.broken && transcript.server.count == 2 &&
      transcript.server.written.map Response.id == ["unknown", "a"])
    (by rw [ofBytes_spoiledBytes]; decide +kernel)
  simp only [Bool.and_eq_true, Bool.not_eq_true', beq_iff_eq] at hseen
  obtain ⟨⟨hunbroken, hcount⟩, hwritten⟩ := hseen
  refine ⟨transcript, hcompletes, ?_, hwritten⟩
  rw [Server.outcome, hunbroken, hcount]
  rfl

theorem malformedCost_spoiledBytes :
    ∃ dirty clean : Transcript Unit Nat,
      dirty.Completes sampleContext () (Frame.ofBytes spoiledBytes) ∧
      clean.Completes sampleContext () (Frame.ofBytes (Frame.withoutMalformed spoiledBytes)) ∧
      dirty.server.written.map Response.id = ["unknown", "a"] ∧
      clean.server.written.map Response.id = ["a"] ∧
      dirty.MalformedCost sampleContext spoiledBytes clean := by
  obtain ⟨dirty, hdirty, -, hwritten⟩ := completes_spoiledBytes
  obtain ⟨clean, hclean, hcleanWritten⟩ := exists_completes sampleContext ()
    ([.feed (Frame.ofBytes (Frame.withoutMalformed spoiledBytes)), .endInput] ++ List.map .move
      [.read, .post, .read, .act .take, .act (.finish 0), .collect 0, .forward 0, .write])
    (Frame.ofBytes (Frame.withoutMalformed spoiledBytes))
    (fun transcript => transcript.server.written.map Response.id == ["a"])
    (by rw [ofBytes_withoutMalformed_spoiledBytes]; decide +kernel)
  exact ⟨dirty, clean, hdirty, hclean, hwritten, beq_iff_eq.1 hcleanWritten,
    malformedCost_of_completes rfl hdirty hclean⟩

/-- A line that is no text costs the request after it, and has no response of its own. -/
theorem unanswered_spoiledBytes :
    ∃ dirty clean : Transcript Unit Nat,
      dirty.Completes sampleContext () (Frame.ofBytes spoiledBytes) ∧
      clean.Completes sampleContext () (Frame.ofBytes cleanBytes) ∧
      dirty.server.outcome = .ok 2 ∧
      dirty.server.written.map Response.id = ["unknown", "a"] ∧
      clean.server.written.map Response.id = ["a", "b"] := by
  obtain ⟨dirty, hdirty, houtcome, hwritten⟩ := completes_spoiledBytes
  obtain ⟨clean, hclean, hcleanWritten⟩ := exists_completes sampleContext ()
    ([.feed (Frame.ofBytes cleanBytes), .endInput] ++ List.map .move
      [.read, .post, .read, .post, .read, .act .take, .act (.finish 0), .collect 0, .forward 0,
        .write, .act .take, .act (.finish 0), .collect 0, .forward 0, .write])
    (Frame.ofBytes cleanBytes)
    (fun transcript => transcript.server.written.map Response.id == ["a", "b"])
    (by rw [ofBytes_cleanBytes]; decide +kernel)
  exact ⟨dirty, clean, hdirty, hclean, houtcome, hwritten, beq_iff_eq.1 hcleanWritten⟩

end Transcript

end CompileServer
