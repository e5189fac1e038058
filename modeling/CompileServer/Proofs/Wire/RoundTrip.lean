import CompileServer.Proofs.Json.Reading
import CompileServer.Wire.Decode
import CompileServer.Wire.Encode

/-!
# Messages are read back

Every message that fits is decoded to itself from the value that it is encoded as, and what
is decoded always fits: its numbers are in range and its free-form parts are canonical.
-/

namespace CompileServer

open Json Decoder Record

/-! ## Messages that fit -/

/-- The numbers have 32 bits. -/
structure SourceRange.Fits (range : SourceRange) : Prop where
  startLine : range.startLine < 2 ^ 32
  startColumn : range.startColumn < 2 ^ 32
  endLine : range.endLine < 2 ^ 32
  endColumn : range.endColumn < 2 ^ 32

def Diagnostic.Fits (diagnostic : Diagnostic) : Prop :=
  ∀ range ∈ diagnostic.range, range.Fits

def LogEntry.Fits (entry : LogEntry) : Prop :=
  ∀ range ∈ entry.range, range.Fits

def ProjectOptions.Fits (options : ProjectOptions) : Prop :=
  options.raw.Canonical

def IntermediateProgram.Fits (program : IntermediateProgram) : Prop :=
  program.body.Canonical

def TargetProgram.Fits (program : TargetProgram) : Prop :=
  ∀ part ∈ program.body, part.Canonical

structure CompileRequest.Fits (request : CompileRequest) : Prop where
  compilerOptions : (Json.obj request.compilerOptions).Canonical
  extraOptions : (Json.obj request.extraOptions).Canonical

structure CompileOutput.Fits (output : CompileOutput) : Prop where
  program : output.program.Fits
  diagnostics : ∀ entry ∈ output.diagnostics, entry.Fits

/-- The code is a signed number of 32 bits. -/
structure ErrorReply.Fits (reply : ErrorReply) : Prop where
  low : -2 ^ 31 ≤ reply.code
  high : reply.code < 2 ^ 31

def Request.Fits (request : Request) : Prop :=
  request.params.Canonical

def Reply.Fits : Reply → Prop
  | .done output => output.Fits
  | .failed error => error.Fits

def Response.Fits (response : Response) : Prop :=
  response.reply.Fits

/-! ## Parts of messages -/

theorem Path.reads (path : Path) : Path.decoder.Reads path.toJson path :=
  (reads_text "path string" path.text).map Path.mk

theorem reads_paths (paths : List Path) : pathsDecoder.Reads (pathsToJson paths) paths :=
  reads_list fun path _ => path.reads

theorem reads_strings (texts : List String) : (list string).Reads (.strings texts) texts :=
  reads_list fun text _ => reads_text "a string" text

theorem reads_values {values : List Json} (hcanonical : ∀ value ∈ values, value.Canonical) :
    (list any).Reads (.arr values) values := by
  have hreads := reads_list fun value hmem => reads_any (hcanonical value hmem)
  rwa [List.map_id'] at hreads

theorem Severity.reads (severity : Severity) :
    Severity.decoder.Reads (.str severity.text) severity := by
  cases severity <;> exact reads_choice rfl

theorem LogOrigin.reads (origin : LogOrigin) :
    LogOrigin.decoder.Reads (.str origin.text) origin := by
  cases origin <;> exact reads_choice rfl

theorem Path.decoder_null (reading : Json.Reading) (path : Path) :
    Path.decoder reading .null ≠ .ok path :=
  fun hdecode => by cases hdecode

theorem SourceRange.decoder_null (reading : Json.Reading) (range : SourceRange) :
    SourceRange.decoder reading .null ≠ .ok range :=
  fun hdecode => by cases hdecode

theorem find?_memberIfSome {α : Type} (name : String) (encode : α → Json) (value : Option α)
    (other : String) :
    Members.find? (memberIfSome name encode value) other =
      if other = name then value.map encode else none := by
  cases value with
  | none => exact (ite_self _).symm
  | some x => exact Members.find?_cons _ _ _

/-! ## Reading back -/

theorem SourceRange.reads {range : SourceRange} (hfits : range.Fits) :
    SourceRange.decoder.Reads range.toJson range := by
  refine Record.Reads.decoder "SourceRange" (by simp [Members.Distinct]) ?_
  have hstartLine := reads_natural32 hfits.startLine
  have hstartColumn := reads_natural32 hfits.startColumn
  have hendLine := reads_natural32 hfits.endLine
  have hendColumn := reads_natural32 hfits.endColumn
  exact ((((reads_required rfl hstartLine).map SourceRange.mk).seq
    (reads_required rfl hstartColumn)).seq (reads_required rfl hendLine)).seq
    (reads_required rfl hendColumn)

theorem Diagnostic.reads {diagnostic : Diagnostic} (hfits : diagnostic.Fits) :
    Diagnostic.decoder.Reads diagnostic.toJson diagnostic := by
  refine Record.Reads.decoder "Diagnostic" (by simp [Members.Distinct]) ?_
  have hmessage := reads_text "a string" diagnostic.message
  have hrange := Decoder.reads_nullable (fun range hmem => SourceRange.reads (hfits range hmem))
    SourceRange.decoder_null
  have hfile : (Decoder.nullable Path.decoder).Reads (.ofOption Path.toJson diagnostic.file)
      diagnostic.file := Decoder.reads_nullable (fun path _ => path.reads) Path.decoder_null
  exact ((((reads_required rfl hmessage).map Diagnostic.mk).seq
    (reads_required rfl diagnostic.severity.reads)).seq (Record.reads_nullable rfl hrange)).seq
    (Record.reads_nullable rfl hfile)

theorem LogEntry.reads {entry : LogEntry} (hfits : entry.Fits) :
    LogEntry.decoder.Reads entry.toJson entry := by
  obtain ⟨message, severity, range, file, origin⟩ := entry
  refine Record.Reads.decoder "LogEntry" ?_ ?_
  · cases range <;> cases file <;> simp [Members.Distinct, memberIfSome]
  · have hmessage := reads_text "a string" message
    have hrange : ∀ found ∈ range, SourceRange.decoder.Reads found.toJson found :=
      fun found hmem => SourceRange.reads (hfits found hmem)
    have hfile : ∀ path ∈ file, Path.decoder.Reads path.toJson path := fun path _ => path.reads
    refine (((((reads_required ?_ hmessage).map LogEntry.mk).seq
      (reads_required ?_ severity.reads)).seq
      (reads_omittable ?_ hrange SourceRange.decoder_null)).seq
      (reads_omittable ?_ hfile Path.decoder_null)).seq (reads_required ?_ origin.reads) <;>
      simp [Members.find?_append, Members.find?_cons, Members.find?_nil, find?_memberIfSome]

theorem ProjectOptions.reads {options : ProjectOptions} (hfits : options.Fits) :
    ProjectOptions.decoder.Reads options.toJson options := by
  refine Record.Reads.decoder "ProjectOptions" (by simp [Members.Distinct]) ?_
  exact ((((reads_required rfl options.projectFile.reads).map ProjectOptions.mk).seq
    (reads_required rfl (reads_paths options.sourceFiles))).seq
    (reads_defaulted rfl (reads_strings options.defines))).seq
    (reads_defaulted rfl (reads_any hfits))

theorem IntermediateProgram.reads {program : IntermediateProgram} (hfits : program.Fits) :
    IntermediateProgram.decoder.Reads program.toJson program := by
  refine Record.Reads.decoder "IntermediateProgram" (by simp [Members.Distinct]) ?_
  exact (((reads_required rfl program.file.reads).map IntermediateProgram.mk).seq
    (reads_required rfl (reads_any hfits))).seq
    (reads_defaulted rfl (reads_paths program.dependencies))

theorem TargetProgram.reads {program : TargetProgram} (hfits : program.Fits) :
    TargetProgram.decoder.Reads program.toJson program := by
  refine Record.Reads.decoder "TargetProgram" (by simp [Members.Distinct]) ?_
  exact (reads_required rfl (reads_values hfits)).map TargetProgram.mk

theorem CompileRequest.reads {request : CompileRequest} (hfits : request.Fits) :
    CompileRequest.decoder.Reads request.toJson request := by
  refine Record.Reads.decoder "CompileRequest" (by simp [Members.Distinct]) ?_
  exact (((((reads_required rfl request.path.reads).map CompileRequest.mk).seq
    (reads_defaulted rfl (reads_members hfits.compilerOptions))).seq
    (reads_defaulted rfl (reads_members hfits.extraOptions))).seq
    (reads_defaulted rfl (reads_paths request.plugins))).seq
    (reads_defaulted rfl (reads_strings request.defines))

theorem CompileOutput.reads {output : CompileOutput} (hfits : output.Fits) :
    CompileOutput.decoder.Reads output.toJson output := by
  refine Record.Reads.decoder "CompileOutput" (by simp [Members.Distinct]) ?_
  have hdiagnostics := reads_list fun entry hmem =>
    LogEntry.reads (hfits.diagnostics entry hmem)
  exact (((reads_required rfl (TargetProgram.reads hfits.program)).map CompileOutput.mk).seq
    (reads_required rfl hdiagnostics)).seq
    (reads_required rfl (reads_paths output.dependencies))

theorem ErrorReply.reads {reply : ErrorReply} (hfits : reply.Fits) :
    ErrorReply.decoder.Reads reply.toJson reply := by
  refine Record.Reads.decoder "ErrorReply" (by simp [Members.Distinct]) ?_
  have hlow := hfits.low
  have hhigh := hfits.high
  have hcode : integer32.Reads (.int reply.code) reply.code :=
    reads_whole (by omega) (by omega)
  exact ((reads_required rfl hcode).map ErrorReply.mk).seq
    (reads_required rfl (reads_text "a string" reply.message))

theorem Request.reads {request : Request} (hfits : request.Fits) :
    Request.decoder.Reads request.toJson request := by
  refine Record.Reads.decoder "Request" (by simp [Members.Distinct]) ?_
  have hid : (Decoder.nullable string).Reads (.ofOption .str request.id) request.id :=
    Decoder.reads_nullable (fun text _ => reads_text "a string" text)
      fun _ _ hdecode => by cases hdecode
  exact ((reads_defaulted rfl hid).map Request.mk).seq (reads_required rfl (reads_any hfits))

/-! ### Responses -/

/-- Members that are not the identifier are only looked over. -/
theorem Response.checkMembers_of_absent {members : Members} (origin : Origin) (id : Option String)
    (habsent : "id" ∉ members.map Prod.fst) :
    checkMembers ⟨origin, none⟩ id (Draft.ofMembers members) = .ok id := by
  induction members with
  | nil => rfl
  | cons member rest ih =>
      obtain ⟨key, value⟩ := member
      have hkey : ¬ key = "id" := fun hkey => habsent (hkey ▸ List.mem_cons_self)
      simp only [Draft.ofMembers, checkMembers, if_neg hkey, Draft.toJson?_ofJson,
        Option.isSome_some, if_true]
      exact ih fun hmem => habsent (List.mem_cons_of_mem _ hmem)

theorem Response.checkMembers_of_found {members : Members} {id : String} (origin : Origin)
    (hdistinct : members.Distinct) (hid : members.find? "id" = some (.str id)) :
    checkMembers ⟨origin, none⟩ none (Draft.ofMembers members) = .ok (some id) := by
  induction members with
  | nil => cases hid
  | cons member rest ih =>
      obtain ⟨key, value⟩ := member
      obtain ⟨hkey, hrest⟩ := List.nodup_cons.1 hdistinct
      rw [Members.find?_cons] at hid
      by_cases hsame : key = "id"
      · subst hsame
        cases hid
        exact checkMembers_of_absent origin (some id) hkey
      · rw [if_neg (Ne.symm hsame)] at hid
        simp only [Draft.ofMembers, checkMembers, if_neg hsame, Draft.toJson?_ofJson,
          Option.isSome_some, if_true]
        exact ih hrest hid

theorem Reply.ofMembers_skip {key : String} (hresult : key ≠ "result") (herror : key ≠ "error")
    (draft : Draft) (rest : List (Option String × Draft)) :
    ofMembers ((some key, draft) :: rest) = ofMembers rest := by
  simp only [ofMembers, Option.some.injEq, if_neg hresult, if_neg herror]

/-- The reply is read from the member called `name` if there is none called `other`. -/
theorem Reply.ofMembers_of_found {members : Members} {name other : String} {value : Json}
    {read : Draft → Except Failure Reply}
    (hread : ∀ draft rest, ofMembers ((some name, draft) :: rest) = read draft)
    (hskip : ∀ key, key ≠ name → key ≠ other → key ≠ "result" ∧ key ≠ "error")
    (hname : members.find? name = some value) (hother : members.find? other = none) :
    ofMembers (Draft.ofMembers members) = read (.ofJson value) := by
  induction members with
  | nil => cases hname
  | cons member rest ih =>
      obtain ⟨key, found⟩ := member
      rw [Members.find?_cons] at hname hother
      have hkeyOther : ¬ other = key := fun hsame => by
        rw [if_pos hsame] at hother
        cases hother
      rw [if_neg hkeyOther] at hother
      by_cases hkey : name = key
      · subst hkey
        rw [if_pos rfl] at hname
        cases hname
        exact hread _ _
      · rw [if_neg hkey] at hname
        obtain ⟨hresult, herror⟩ := hskip key (Ne.symm hkey) (Ne.symm hkeyOther)
        rw [Draft.ofMembers, ofMembers_skip hresult herror, ih hname hother]

theorem Response.distinct (response : Response) :
    Members.Distinct [("id", .str response.id), response.reply.toMember] := by
  cases response.reply <;> simp [Members.Distinct, Reply.toMember]

theorem Response.reads {response : Response} (hfits : response.Fits) :
    Response.decoder.Reads response.toJson response := by
  intro layout origin
  obtain ⟨id, reply⟩ := response
  obtain ⟨placed, hplaced, hdistinct, hfind⟩ := layout.obj (distinct ⟨id, reply⟩)
  have hid : placed.find? "id" = some (.str id) :=
    (hfind "id").trans (congrArg some (layout.str id))
  have hreply : Reply.ofMembers (Draft.ofMembers placed) = .ok reply := by
    cases reply with
    | done output =>
        have hfound := Reply.ofMembers_of_found (fun _ _ => rfl) (fun _ => And.intro)
          (hfind "result") (hfind "error")
        rw [hfound, CompileOutput.reads hfits layout .setAside]
    | failed error =>
        have hfound := Reply.ofMembers_of_found (fun _ _ => rfl) (fun _ => flip And.intro)
          (hfind "error") (hfind "result")
        rw [hfound, ErrorReply.reads hfits layout .setAside]
  rw [toJson, hplaced]
  simp only [Draft.ofJson, decoder, enter, bind, Except.bind,
    checkMembers_of_found origin hdistinct hid, if_true, hreply, Except.map]

/-! ## What is decoded fits -/

theorem SourceRange.yields : SourceRange.decoder.Yields Fits := by
  have hnumber : ∀ name, (required name natural32).Yields (· < 2 ^ 32) :=
    fun _ => yields_required yields_natural32
  refine Record.Yields.decoder "SourceRange"
    (((((hnumber _).map ?_).seq (hnumber _)).seq (hnumber _)).seq (hnumber _))
  exact fun _ hstartLine _ hstartColumn _ hendLine _ hendColumn =>
    ⟨hstartLine, hstartColumn, hendLine, hendColumn⟩

theorem Diagnostic.yields : Diagnostic.decoder.Yields Fits := by
  refine Record.Yields.decoder "Diagnostic"
    (((((yields_required (yields_true _)).map ?_).seq (yields_required (yields_true _))).seq
      (yields_nullable SourceRange.yields)).seq (yields_nullable (yields_true _)))
  exact fun _ _ _ _ _ hrange _ _ => hrange

theorem LogEntry.yields : LogEntry.decoder.Yields Fits := by
  refine Record.Yields.decoder "LogEntry"
    ((((((yields_required (yields_true _)).map ?_).seq (yields_required (yields_true _))).seq
      (yields_nullable SourceRange.yields)).seq (yields_nullable (yields_true _))).seq
      (yields_required (yields_true _)))
  exact fun _ _ _ _ _ hrange _ _ _ _ => hrange

theorem ProjectOptions.yields : ProjectOptions.decoder.Yields Fits := by
  refine Record.Yields.decoder "ProjectOptions"
    (((((yields_required (yields_true _)).map ?_).seq (yields_required (yields_true _))).seq
      (yields_defaulted (yields_true _) trivial)).seq (yields_defaulted yields_any trivial))
  exact fun _ _ _ _ _ _ _ hraw => hraw

theorem IntermediateProgram.yields : IntermediateProgram.decoder.Yields Fits := by
  refine Record.Yields.decoder "IntermediateProgram"
    ((((yields_required (yields_true _)).map ?_).seq (yields_required yields_any)).seq
      (yields_defaulted (yields_true _) trivial))
  exact fun _ _ _ hbody _ _ => hbody

theorem TargetProgram.yields : TargetProgram.decoder.Yields Fits :=
  Record.Yields.decoder "TargetProgram" ((yields_required yields_any.list).map fun _ hbody => hbody)

theorem CompileRequest.yields : CompileRequest.decoder.Yields Fits := by
  have hempty : (Json.obj []).Canonical := ⟨.nil, trivial⟩
  refine Record.Yields.decoder "CompileRequest"
    ((((((yields_required (yields_true _)).map ?_).seq
      (yields_defaulted yields_members hempty)).seq (yields_defaulted yields_members hempty)).seq
      (yields_defaulted (yields_true _) trivial)).seq (yields_defaulted (yields_true _) trivial))
  exact fun _ _ _ hcompiler _ hextra _ _ _ _ => ⟨hcompiler, hextra⟩

theorem CompileOutput.yields : CompileOutput.decoder.Yields Fits := by
  refine Record.Yields.decoder "CompileOutput"
    ((((yields_required TargetProgram.yields).map ?_).seq
      (yields_required LogEntry.yields.list)).seq (yields_required (yields_true _)))
  exact fun _ hprogram _ hdiagnostics _ _ => ⟨hprogram, hdiagnostics⟩

theorem ErrorReply.yields : ErrorReply.decoder.Yields Fits := by
  refine Record.Yields.decoder "ErrorReply"
    (((yields_required (yields_whole _ _ _)).map ?_).seq (yields_required (yields_true _)))
  intro code ⟨hlow, hhigh⟩ message _
  have hbounds : -2 ^ 31 ≤ code ∧ code < 2 ^ 31 := by omega
  exact ⟨hbounds.1, hbounds.2⟩

theorem Request.yields : Request.decoder.Yields Fits := by
  refine Record.Yields.decoder "Request"
    (((yields_defaulted (yields_true _) trivial).map ?_).seq (yields_required yields_any))
  exact fun _ _ _ hparams => hparams

theorem Reply.fits_of_ofMembers {members : List (Option String × Draft)} {reply : Reply}
    (hread : ofMembers members = .ok reply) : reply.Fits := by
  induction members with
  | nil => cases hread
  | cons member rest ih =>
      simp only [ofMembers] at hread
      split at hread
      · obtain ⟨output, houtput, rfl⟩ := exists_of_map hread
        exact CompileOutput.yields _ _ output houtput
      · split at hread
        · obtain ⟨error, herror, rfl⟩ := exists_of_map hread
          exact ErrorReply.yields _ _ error herror
        · exact ih hread

theorem Response.yields : Response.decoder.Yields Fits := by
  intro reading draft response hdecode
  cases draft with
  | obj members closed =>
      obtain ⟨inside, -, hdecode⟩ := exists_of_bind hdecode
      obtain ⟨id, -, hdecode⟩ := exists_of_bind hdecode
      cases closed with
      | false => cases hdecode
      | true =>
          cases id with
          | none => cases hdecode
          | some id =>
              obtain ⟨reply, hreply, rfl⟩ := exists_of_map hdecode
              exact Reply.fits_of_ofMembers hreply
  | null | bool | num | str | unreadable | broken | arr => cases hdecode

end CompileServer
