import CompileServer.Actor.Basic
import CompileServer.Proofs.Json.Reading
import CompileServer.Server.Frame
import Mathlib.Data.List.Induction

/-!
# What lines ask for

Lines that are not blank are counted, and the requests among them are numbered on their own.
A request has the identifier that its line gives; a line that leaves it out or says null gives
none.
-/

namespace CompileServer

/-- A line that asks for something. -/
structure Entry where
  /-- The number of such lines before it. -/
  position : Nat
  /-- The number of requests before it. -/
  ticket : Ticket
  incoming : Incoming

namespace Entry

/-- What the line asks of the actor. -/
def request? (entry : Entry) : Option (Ticket × Json) :=
  match entry.incoming with
  | .request request => some (entry.ticket, request.params)
  | _ => none

/-- The entries after another line. -/
def add (entries : List Entry) (text : String) : List Entry :=
  match Incoming.ofLine text with
  | .blank => entries
  | incoming => entries ++ [⟨entries.length, (entries.filterMap request?).length, incoming⟩]

/-- The lines that ask for something. -/
def ofLines (lines : List String) : List Entry :=
  lines.foldl add []

/-- What some lines ask of the actor, oldest first. -/
def requests (lines : List String) : List (Ticket × Json) :=
  (ofLines lines).filterMap request?

theorem ofLines_concat (lines : List String) (text : String) :
    ofLines (lines ++ [text]) = add (ofLines lines) text := by
  simp only [ofLines, List.foldl_append, List.foldl_cons, List.foldl_nil]

section Line

variable {lines : List String} {text : String}

theorem ofLines_blank (hline : Incoming.ofLine text = .blank) :
    ofLines (lines ++ [text]) = ofLines lines := by
  rw [ofLines_concat, add, hline]

theorem ofLines_faulty {failure : Json.Failure} (hline : Incoming.ofLine text = .faulty failure) :
    ofLines (lines ++ [text]) =
      ofLines lines ++ [⟨(ofLines lines).length, (requests lines).length, .faulty failure⟩] := by
  rw [ofLines_concat, add, hline]
  rfl

theorem ofLines_request {request : Request} (hline : Incoming.ofLine text = .request request) :
    ofLines (lines ++ [text]) =
      ofLines lines ++ [⟨(ofLines lines).length, (requests lines).length, .request request⟩] := by
  rw [ofLines_concat, add, hline]
  rfl

theorem requests_blank (hline : Incoming.ofLine text = .blank) :
    requests (lines ++ [text]) = requests lines := by
  rw [requests, ofLines_blank hline, requests]

theorem requests_faulty {failure : Json.Failure}
    (hline : Incoming.ofLine text = .faulty failure) :
    requests (lines ++ [text]) = requests lines := by
  rw [requests, ofLines_faulty hline, List.filterMap_append]
  simp [requests, request?]

theorem requests_request {request : Request} (hline : Incoming.ofLine text = .request request) :
    requests (lines ++ [text]) = requests lines ++ [((requests lines).length, request.params)] := by
  rw [requests, ofLines_request hline, List.filterMap_append]
  simp [requests, request?]

end Line

/-- Requests are numbered in the order of their lines. -/
theorem map_fst_requests (lines : List String) :
    (requests lines).map Prod.fst = List.range (requests lines).length := by
  induction lines using List.reverseRecOn with
  | nil => rfl
  | append_singleton lines text ih =>
      cases hline : Incoming.ofLine text with
      | blank => rw [requests_blank hline, ih]
      | faulty failure => rw [requests_faulty hline, ih]
      | request request =>
          rw [requests_request hline, List.map_append, ih, List.length_append]
          exact List.range_succ.symm

end Entry

theorem Incoming.ofLine_eq_blank {text : String} :
    Incoming.ofLine text = .blank ↔ Text.trim text = "" := by
  simp only [ofLine]
  split
  · rename_i hblank
    exact iff_of_true rfl hblank
  · rename_i hasking
    refine iff_of_false ?_ hasking
    split <;> exact Incoming.noConfusion

/-- Every line that is not blank asks for something. -/
theorem Entry.length_ofLines (lines : List String) :
    (ofLines lines).length = (lines.filter fun text => Text.trim text ≠ "").length := by
  induction lines using List.reverseRecOn with
  | nil => rfl
  | append_singleton lines text ih =>
      rw [List.filter_append, List.length_append, ← ih]
      cases hline : Incoming.ofLine text with
      | blank =>
          have hblank := Incoming.ofLine_eq_blank.1 hline
          simp [ofLines_blank hline, hblank]
      | faulty | request =>
          have hasking : ¬ Text.trim text = "" := by
            rw [← Incoming.ofLine_eq_blank, hline]
            exact Incoming.noConfusion
          simp [ofLines_concat, add, hline, hasking]

/-! ## Identifiers -/

/-- The text that a draft is, if there is one. -/
def Draft.text? : Option Draft → Option String
  | some (.str text) => some text
  | _ => none

/-- The identifier that a draft of a request gives. -/
def Request.writtenId : Draft → Option String
  | .obj members _ => Draft.text? (Json.Record.memberDraft members "id")
  | .arr elements _ => Draft.text? elements.head?
  | _ => none

/-- A text that may be missing or null is the one that is written. -/
theorem Json.Record.eq_text?_of_build {name : String} {reading : Json.Reading}
    {drafts : String → Option Draft} {found : Option String}
    (hbuild : (defaulted name none (Decoder.nullable Decoder.string)).build reading drafts =
      .ok found) : found = Draft.text? (drafts name) := by
  simp only [defaulted] at hbuild
  cases hdraft : drafts name with
  | none =>
      rw [hdraft] at hbuild
      cases hbuild
      rfl
  | some draft =>
      rw [hdraft] at hbuild
      cases draft <;> cases hbuild <;> rfl

/-- A request has the identifier that its drafts give. -/
theorem Request.id_of_build {reading : Json.Reading} {drafts : String → Option Draft}
    {request : Request} (hbuild : Request.record.build reading drafts = .ok request) :
    request.id = Draft.text? (drafts "id") := by
  obtain ⟨make, hmake, hbuild⟩ := Json.exists_of_bind hbuild
  obtain ⟨_, hfirst, hmake⟩ := Json.exists_of_bind hmake
  obtain ⟨id, hid, hmake⟩ := Json.exists_of_bind hmake
  obtain ⟨params, -, hbuild⟩ := Json.exists_of_bind hbuild
  cases hfirst
  cases hmake
  cases hbuild
  exact Json.Record.eq_text?_of_build hid

/-- A request has the identifier that is written, and none if it is missing or null. -/
theorem Request.id_of_decoder {reading : Json.Reading} {draft : Draft} {request : Request}
    (hdecode : Request.decoder reading draft = .ok request) :
    request.id = Request.writtenId draft := by
  cases draft with
  | obj members closed =>
      obtain ⟨inside, -, hdecode⟩ := Json.exists_of_bind hdecode
      obtain ⟨_, -, hdecode⟩ := Json.exists_of_bind hdecode
      cases closed with
      | false => cases hdecode
      | true =>
          obtain ⟨_, -, hbuild⟩ := Json.exists_of_bind hdecode
          exact Request.id_of_build hbuild
  | arr elements closed =>
      obtain ⟨inside, -, hdecode⟩ := Json.exists_of_bind hdecode
      obtain ⟨_, -, hbuild⟩ := Json.exists_of_bind hdecode
      rw [Request.id_of_build hbuild]
      rcases elements with _ | ⟨first, rest⟩
      · rfl
      · cases first <;> rfl
  | null | bool | num | str | unreadable | broken => cases hdecode

/-- The identifier that a line gives, if it is a request. -/
theorem Incoming.id_of_ofLine {text : String} {request : Request}
    (hline : Incoming.ofLine text = .request request) :
    request.id = Request.writtenId (Json.Document.ofText (Text.trim text)).root := by
  simp only [ofLine] at hline
  split at hline
  · cases hline
  · split at hline
    · rename_i hdecode
      cases hline
      obtain ⟨_, hdecode, hwhole⟩ := Json.exists_of_bind hdecode
      split at hwhole
      · cases hwhole
      · cases hwhole
        exact Request.id_of_decoder hdecode
    · cases hline

end CompileServer
