import CompileServer.Proofs.Json.OneLine
import CompileServer.Proofs.Wire.RoundTrip

/-!
# The wire format

Encoding loses nothing: a message is decoded to itself, paths in their exact spelling.  A
response says to which request it belongs and how that ended in exactly one way, and it is
exactly one line of the output.
-/

namespace CompileServer

/-- Encoding the messages of one kind and decoding them again loses nothing. -/
structure Recovers {α : Type} (decoder : Json.Decoder α) (encode : α → Json) (fits : α → Prop) :
    Prop where
  /-- A message is decoded from the value that it is encoded as, whether the members stand as
  they are written or sorted by their keys. -/
  back : ∀ message, fits message →
    Json.decode decoder (encode message) = .ok message ∧
      Json.decode decoder (encode message).sorted = .ok message
  /-- The messages that fit are those that can be decoded from anything at all. -/
  fits_iff : ∀ message, fits message ↔ ∃ reading draft, decoder reading draft = .ok message
  /-- Encoding what was decoded and decoding again changes nothing. -/
  again : ∀ value message, Json.decode decoder value = .ok message →
    Json.decode decoder (encode message) = .ok message ∧
      Json.decode decoder (encode message).sorted = .ok message

theorem recovers_of_reads {α : Type} {decoder : Json.Decoder α} {encode : α → Json}
    {fits : α → Prop} (hreads : ∀ {message}, fits message → decoder.Reads (encode message) message)
    (hyields : decoder.Yields fits) : Recovers decoder encode fits := by
  have hback : ∀ message, fits message →
      Json.decode decoder (encode message) = .ok message ∧
        Json.decode decoder (encode message).sorted = .ok message := fun _ hfits =>
    ⟨hreads hfits .asWritten .value, hreads hfits .byKey .value⟩
  refine ⟨hback, fun message => ⟨fun hfits => ?_, ?_⟩, fun value message hdecode => ?_⟩
  · exact ⟨.value, .ofJson (encode message), (hback message hfits).1⟩
  · rintro ⟨reading, draft, hdecode⟩
    exact hyields reading draft message hdecode
  · exact hback message (hyields .value (.ofJson value) message hdecode)

/-- What a response is on the wire. -/
structure Response.Carried (response : Response) : Prop where
  identified : response.toJson.member? "id" = some (.str response.id)
  result : response.toJson.member? "result" = response.reply.output?.map CompileOutput.toJson
  error : response.toJson.member? "error" = response.reply.error?.map ErrorReply.toJson
  exclusive : (response.toJson.member? "result").isSome = !(response.toJson.member? "error").isSome
  unbroken : '\n' ∉ response.line.toList ∧ '\r' ∉ response.line.toList

theorem Response.carried (response : Response) : response.Carried := by
  have hplain := Json.plain_compact response.toJson
  obtain ⟨id, reply⟩ := response
  refine ⟨rfl, ?_, ?_, ?_, fun hmem => ?_, fun hmem => ?_⟩
  · cases reply <;> rfl
  · cases reply <;> rfl
  · cases reply <;> rfl
  · exact absurd (hplain _ hmem) (by decide)
  · exact absurd (hplain _ hmem) (by decide)

/-- The laws of the wire format. -/
structure WireFormat : Prop where
  request : Recovers Request.decoder Request.toJson Request.Fits
  response : Recovers Response.decoder Response.toJson Response.Fits
  compileRequest : Recovers CompileRequest.decoder CompileRequest.toJson CompileRequest.Fits
  compileOutput : Recovers CompileOutput.decoder CompileOutput.toJson CompileOutput.Fits
  errorReply : Recovers ErrorReply.decoder ErrorReply.toJson ErrorReply.Fits
  logEntry : Recovers LogEntry.decoder LogEntry.toJson LogEntry.Fits
  diagnostic : Recovers Diagnostic.decoder Diagnostic.toJson Diagnostic.Fits
  sourceRange : Recovers SourceRange.decoder SourceRange.toJson SourceRange.Fits
  projectOptions : Recovers ProjectOptions.decoder ProjectOptions.toJson ProjectOptions.Fits
  intermediateProgram :
    Recovers IntermediateProgram.decoder IntermediateProgram.toJson IntermediateProgram.Fits
  targetProgram : Recovers TargetProgram.decoder TargetProgram.toJson TargetProgram.Fits
  carried : ∀ response : Response, response.Carried
  /-- A reader of the output finds one line for each response. -/
  oneLine : ∀ responses : List Response,
    Frame.ofBytes (Frame.terminated
        (responses.map fun response => response.line.toUTF8.data.toList)) =
      responses.map fun response => .line response.line

theorem wireFormat : WireFormat where
  request := recovers_of_reads Request.reads Request.yields
  response := recovers_of_reads Response.reads Response.yields
  compileRequest := recovers_of_reads CompileRequest.reads CompileRequest.yields
  compileOutput := recovers_of_reads CompileOutput.reads CompileOutput.yields
  errorReply := recovers_of_reads ErrorReply.reads ErrorReply.yields
  logEntry := recovers_of_reads LogEntry.reads LogEntry.yields
  diagnostic := recovers_of_reads Diagnostic.reads Diagnostic.yields
  sourceRange := recovers_of_reads SourceRange.reads SourceRange.yields
  projectOptions := recovers_of_reads ProjectOptions.reads ProjectOptions.yields
  intermediateProgram := recovers_of_reads IntermediateProgram.reads IntermediateProgram.yields
  targetProgram := recovers_of_reads TargetProgram.reads TargetProgram.yields
  carried := Response.carried
  oneLine responses := by
    have hplain : ∀ text ∈ responses.map Response.line, Plain text.toList := by
      intro text hmem
      obtain ⟨response, -, rfl⟩ := List.mem_map.1 hmem
      exact Json.plain_compact response.toJson
    have hlines := Frame.ofBytes_terminated hplain
    rwa [List.map_map, List.map_map] at hlines

/-- A number beyond 32 bits is written but not read. -/
example : (Json.decode SourceRange.decoder (SourceRange.toJson ⟨2 ^ 32, 1, 1, 1⟩)).toOption =
    none := by
  decide

end CompileServer
