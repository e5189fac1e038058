import CompileServer.Config.Lookup
import CompileServer.Proofs.Json.Reading
import CompileServer.Proofs.Toml.Widening

/-!
# Settings over their defaults

A document overlays the defaults.  The settings in a document are those that it was written
from, whatever was left out of it and added to it since, except that what was left out has its
default.  Only the program of a tool cannot be left out alone.
-/

namespace CompileServer

open Json (Decoder Record Reading Entry)
open Toml (Table Value)

variable {α β : Type}

/-! ## Records in tables -/

namespace Json.Record

/-- The record is put together as `x` from the drafts at the names of its members. -/
structure Gives (record : Record α) (reading : Json.Reading) (drafts : String → Option Draft)
    (x : α) : Prop where
  checked : ∀ entry ∈ record.entries, ∀ draft, drafts entry.name = some draft →
    entry.check reading draft = .ok ()
  present : ∀ entry ∈ record.entries, entry.presence = .required →
    (drafts entry.name).isSome = true
  built : record.build reading drafts = .ok x

variable {reading : Json.Reading} {drafts : String → Option Draft} {name : String} {x : α}
  {decode : Decoder α}

theorem gives_pure (x : α) : (pure x : Record α).Gives reading drafts x :=
  ⟨fun _ hmem => absurd hmem List.not_mem_nil, fun _ hmem => absurd hmem List.not_mem_nil, rfl⟩

theorem Gives.seq {make : Record (α → β)} {f : α → β} {argument : Record α}
    (hmake : make.Gives reading drafts f) (hargument : argument.Gives reading drafts x) :
    (make <*> argument).Gives reading drafts (f x) where
  checked entry hmem := by
    rcases List.mem_append.1 hmem with hmem | hmem
    · exact hmake.checked entry hmem
    · exact hargument.checked entry hmem
  present entry hmem := by
    rcases List.mem_append.1 hmem with hmem | hmem
    · exact hmake.present entry hmem
    · exact hargument.present entry hmem
  built := by
    change (make.build _ _ >>= fun f => argument.build _ _ >>= fun x => Except.ok (f x)) = _
    rw [hmake.built, hargument.built]
    rfl

/-- A member with a default has it if the member is missing, and what is read otherwise. -/
theorem gives_defaulted {default : α}
    (hfound : ∀ draft, drafts name = some draft → decode reading draft = .ok x)
    (hmissing : drafts name = none → x = default) :
    (defaulted name default decode).Gives reading drafts x where
  checked entry hmem draft hdraft := by
    obtain rfl := List.mem_singleton.1 hmem
    change (decode reading draft).map _ = _
    rw [hfound draft hdraft]
    rfl
  present entry hmem hrequired := by
    rw [List.mem_singleton.1 hmem] at hrequired
    cases hrequired
  built := by
    simp only [defaulted]
    cases hdraft : drafts name with
    | none => rw [hmissing hdraft]
    | some draft => exact hfound draft hdraft

theorem gives_required {draft : Draft} (hfound : drafts name = some draft)
    (hdecode : decode reading draft = .ok x) :
    (required name decode).Gives reading drafts x where
  checked entry hmem other hother := by
    obtain rfl := List.mem_singleton.1 hmem
    cases hfound.symm.trans hother
    change (decode reading draft).map _ = _
    rw [hdecode]
    rfl
  present entry hmem _ := by
    obtain rfl := List.mem_singleton.1 hmem
    exact Option.isSome_of_eq_some hfound
  built := by
    simp only [required, hfound]
    exact hdecode

/-- The drafts in a table. -/
def draftsIn (table : Table) (name : String) : Option Draft :=
  (table.lookup name).map Value.toDraft

/-- An entry with a known name is the one that is found under it. -/
theorem lookup_of_mem {names : List String} {table : Table} (hdistinct : table.Distinct names)
    {entry : String × Value} (hmem : entry ∈ table) (hname : entry.1 ∈ names) :
    table.lookup entry.1 = some entry.2 := by
  induction table with
  | nil => exact absurd hmem List.not_mem_nil
  | cons first rest ih =>
      rw [Toml.lookup_cons_eq]
      unfold Table.Distinct at hdistinct ih
      rw [List.map_cons, List.filter_cons] at hdistinct
      split at hdistinct
      · obtain ⟨hfirst, hrest⟩ := List.nodup_cons.1 hdistinct
        rcases List.mem_cons.1 hmem with rfl | hmem
        · exact if_pos rfl
        · have hother : ¬ entry.1 = first.1 := fun hsame =>
            hfirst (List.mem_filter.2 ⟨hsame ▸ List.mem_map_of_mem hmem,
              List.contains_iff_mem.2 (hsame ▸ hname)⟩)
          rw [if_neg hother]
          exact ih hrest hmem
      · rename_i hunknown
        rcases List.mem_cons.1 hmem with rfl | hmem
        · exact if_pos rfl
        · have hother : ¬ entry.1 = first.1 := fun hsame =>
            hunknown (List.contains_iff_mem.2 (hsame ▸ hname))
          rw [if_neg hother]
          exact ih hdistinct hmem

/-- Entries pass the check if every known one passes its own and none comes twice. -/
theorem checkMembers_membersOf {entries : List Entry} {seen : List String} {table : Table}
    (hdistinct : table.Distinct (entries.map Entry.name))
    (hunseen : ∀ key ∈ seen, key ∉ table.map Prod.fst)
    (hchecked : ∀ member ∈ table, ∀ entry ∈ entries, entry.name = member.1 →
      entry.check reading member.2.toDraft = .ok ()) :
    checkMembers entries reading seen (Toml.membersOf table) = .ok () := by
  induction table generalizing seen with
  | nil => rfl
  | cons member rest ih =>
      have hmore := fun other hother => hchecked other (List.mem_cons_of_mem _ hother)
      unfold Table.Distinct at hdistinct
      rw [List.map_cons, List.filter_cons] at hdistinct
      simp only [Toml.membersOf, checkMembers]
      cases hentry : entries.find? fun entry => entry.name == member.1 with
      | none =>
          rw [Toml.canSkip_toDraft, if_pos rfl]
          refine ih ?_ (fun key hkey hmem => hunseen key hkey (List.mem_cons_of_mem _ hmem)) hmore
          split at hdistinct
          · exact (List.nodup_cons.1 hdistinct).2
          · exact hdistinct
      | some entry =>
          have hknown := List.mem_of_find?_eq_some hentry
          have hfound := List.find?_some hentry
          have hname : entry.name = member.1 := beq_iff_eq.1 hfound
          have hlisted : (entries.map Entry.name).contains member.1 = true :=
            List.contains_iff_mem.2 (hname ▸ List.mem_map_of_mem hknown)
          have hnew : seen.contains member.1 = false := by
            apply Bool.eq_false_iff.2
            intro hseen
            exact hunseen member.1 (List.contains_iff_mem.1 hseen) List.mem_cons_self
          rw [if_pos hlisted] at hdistinct
          obtain ⟨hfirst, hrest⟩ := List.nodup_cons.1 hdistinct
          have hcheck := hchecked member List.mem_cons_self entry hknown hname
          simp only [hnew, Bool.false_eq_true, if_false, hcheck, bind, Except.bind]
          refine ih hrest (fun key hkey hmem => ?_) hmore
          rcases List.mem_cons.1 hkey with rfl | hkey
          · exact hfirst (List.mem_filter.2 ⟨hmem, hlisted⟩)
          · exact hunseen key hkey (List.mem_cons_of_mem _ hmem)

/-- A record is read from a table whose known names are distinct. -/
theorem Gives.decoder {record : Record α} {table : Table} (kind : String)
    (hreading : reading.room = none)
    (hdistinct : table.Distinct (record.entries.map Entry.name))
    (hgives : record.Gives reading (draftsIn table) x) :
    record.decoder kind reading (Value.table table).toDraft = .ok x := by
  have hdrafts : memberDraft (Toml.membersOf table) = draftsIn table := by
    funext name
    exact Toml.lookup_membersOf table name
  have hmembers : checkMembers record.entries reading [] (Toml.membersOf table) = .ok () := by
    refine checkMembers_membersOf hdistinct (fun _ hmem => absurd hmem List.not_mem_nil) ?_
    intro member hmem entry hentry hname
    refine hgives.checked entry hentry member.2.toDraft ?_
    have hlookup := lookup_of_mem hdistinct hmem (hname ▸ List.mem_map_of_mem hentry)
    rw [draftsIn, hname, hlookup, Option.map_some]
  have hmissing : checkMissing (draftsIn table) record.entries = .ok () :=
    checkMissing_of_present hgives.present
  simp only [Value.toDraft, Record.decoder, fromMembers, enter, hreading, bind, Except.bind,
    hmembers, hdrafts, hmissing, if_true]
  exact hgives.built

end Json.Record

/-! ## Settings that are set back -/

def SourceKinds.reset (gone : List String → Bool) (kinds : SourceKinds) : SourceKinds where
  project := if gone ["sources", "project"] then SourceKinds.standard.project else kinds.project
  script := if gone ["sources", "script"] then SourceKinds.standard.script else kinds.script
  source := if gone ["sources", "source"] then SourceKinds.standard.source else kinds.source
  signature :=
    if gone ["sources", "signature"] then SourceKinds.standard.signature else kinds.signature

def ServerSettings.reset (gone : List String → Bool) (settings : ServerSettings) :
    ServerSettings where
  logLevel :=
    if gone ["server", "log_level"] then ServerSettings.standard.logLevel else settings.logLevel
  logRotation :=
    if gone ["server", "log_rotation"] then ServerSettings.standard.logRotation
    else settings.logRotation
  mailboxCapacity :=
    if gone ["server", "mailbox_capacity"] then ServerSettings.standard.mailboxCapacity
    else settings.mailboxCapacity

/-- The tool with the given name, without its arguments if they are gone. -/
def ToolCommand.reset (gone : List String → Bool) (name : String) (command : ToolCommand) :
    ToolCommand where
  program := command.program
  arguments := if gone ["toolchain", name, "args"] then [] else command.arguments

def ToolSettings.reset (gone : List String → Bool) (settings : ToolSettings) : ToolSettings where
  buildOptions :=
    if gone ["toolchain", "build_options"] then none
    else settings.buildOptions.map (ToolCommand.reset gone "build_options")
  frontEnd :=
    if gone ["toolchain", "frontend"] then none
    else settings.frontEnd.map (ToolCommand.reset gone "frontend")
  codeGen :=
    if gone ["toolchain", "codegen"] then none
    else settings.codeGen.map (ToolCommand.reset gone "codegen")

/-- The settings with the defaults in place of all that is gone. -/
def Config.reset (gone : List String → Bool) (config : Config) : Config where
  sources := if gone ["sources"] then .standard else config.sources.reset gone
  server := if gone ["server"] then .standard else config.server.reset gone
  toolchain := if gone ["toolchain"] then .standard else config.toolchain.reset gone

/-- The program of a tool stays wherever the tool does. -/
def KeepsPrograms (gone : List String → Bool) : Prop :=
  ∀ name, gone ["toolchain", name, "program"] = true →
    gone ["toolchain"] = true ∨ gone ["toolchain", name] = true

theorem KeepsPrograms.program {gone : List String → Bool} (hprograms : KeepsPrograms gone)
    {name : String} (hsection : gone ["toolchain"] = false)
    (htool : gone ["toolchain", name] = false) :
    gone ["toolchain", name, "program"] = false := by
  refine Bool.eq_false_iff.2 fun hgone => ?_
  rcases hprograms name hgone with h | h
  · exact Bool.false_ne_true (hsection.symm.trans h)
  · exact Bool.false_ne_true (htool.symm.trans h)

/-- The names of settings at a path. -/
def Config.names : List String → List String
  | [] => Config.record.entries.map Entry.name
  | ["sources"] => SourceKinds.record.entries.map Entry.name
  | ["server"] => ServerSettings.record.entries.map Entry.name
  | ["toolchain"] => ToolSettings.record.entries.map Entry.name
  | ["toolchain", _] => ToolCommand.record.entries.map Entry.name
  | _ => []

/-! ## Settings in wider tables -/

section Settings

variable {gone : List String → Bool} {path : List String} {name : String} {x : α}
  {decode : Decoder α} {entries wider : Table} {value : Value}

/-- The decoder reads the value at a path, without what is gone and however wide it is. -/
def ReadsWidened (gone : List String → Bool) (path : List String) (decode : Decoder α)
    (value : Value) (x : α) : Prop :=
  ∀ wider, Value.Widens Config.names path (value.prune gone path) wider →
    decode .configuration wider.toDraft = .ok x

theorem readsWidened_of_plain (hplain : value.isTable = false)
    (hdecode : decode .configuration value.toDraft = .ok x) :
    ReadsWidened gone path decode value x := by
  have hprune : value.prune gone path = value := by
    cases value with
    | table => cases hplain
    | str | int | float | bool | moment | arr => rfl
  intro wider hwidens
  rw [hprune] at hwidens
  cases hwidens with
  | same => exact hdecode
  | table => cases hplain

/-- What the wider table has under a known name. -/
theorem lookup_covers (hcovers : Table.Covers Config.names path
      (Toml.pruneEntries gone path entries) wider) (hname : name ∈ Config.names path) :
    Option.Rel (Value.Widens Config.names (path ++ [name]))
      (if gone (path ++ [name]) then none
        else (entries.lookup name).map (Value.prune gone (path ++ [name])))
      (wider.lookup name) := by
  rw [← Toml.lookup_pruneEntries]
  exact hcovers.found name hname

/-- A setting that was written has its default if it is gone. -/
theorem gives_written (default : α) (hcovers : Table.Covers Config.names path
      (Toml.pruneEntries gone path entries) wider) (hname : name ∈ Config.names path)
    (hwritten : entries.lookup name = some value)
    (hreads : gone (path ++ [name]) = false → ReadsWidened gone (path ++ [name]) decode value x) :
    (Record.defaulted name default decode).Gives .configuration (Record.draftsIn wider)
      (if gone (path ++ [name]) then default else x) := by
  have hfound := lookup_covers hcovers hname
  rw [hwritten, Option.map_some] at hfound
  apply Record.gives_defaulted
  · intro draft hdraft
    obtain ⟨kept, hkept, rfl⟩ := Option.map_eq_some_iff.1 hdraft
    rw [hkept] at hfound
    split at hfound
    · cases hfound
    · rename_i hthere
      rw [if_neg hthere]
      cases hfound with
      | some hwidens => exact hreads (Bool.eq_false_iff.2 hthere) kept hwidens
  · intro hmissing
    rw [Option.map_eq_none_iff.1 hmissing] at hfound
    split at hfound
    · rename_i hgone
      rw [if_pos hgone]
    · cases hfound

/-- A member that must be there, and is. -/
theorem gives_kept (hcovers : Table.Covers Config.names path
      (Toml.pruneEntries gone path entries) wider) (hname : name ∈ Config.names path)
    (hwritten : entries.lookup name = some value) (hkept : gone (path ++ [name]) = false)
    (hreads : ReadsWidened gone (path ++ [name]) decode value x) :
    (Record.required name decode).Gives .configuration (Record.draftsIn wider) x := by
  have hfound := lookup_covers hcovers hname
  rw [hwritten, hkept, if_neg Bool.false_ne_true, Option.map_some] at hfound
  cases hlookup : wider.lookup name with
  | none =>
      rw [hlookup] at hfound
      cases hfound
  | some kept =>
      rw [hlookup] at hfound
      cases hfound with
      | some hwidens =>
          have hdraft : Record.draftsIn wider name = some kept.toDraft := by
            rw [Record.draftsIn, hlookup, Option.map_some]
          exact Record.gives_required hdraft (hreads kept hwidens)

/-- A setting that was not written has its default. -/
theorem gives_unwritten (default : α) (hcovers : Table.Covers Config.names path
      (Toml.pruneEntries gone path entries) wider) (hname : name ∈ Config.names path)
    (hunwritten : entries.lookup name = none) :
    (Record.defaulted name default decode).Gives .configuration (Record.draftsIn wider)
      default := by
  have hfound := lookup_covers hcovers hname
  rw [hunwritten, Option.map_none, ite_self] at hfound
  apply Record.gives_defaulted
  · intro draft hdraft
    obtain ⟨kept, hkept, -⟩ := Option.map_eq_some_iff.1 hdraft
    rw [hkept] at hfound
    cases hfound
  · exact fun _ => rfl

/-- A record is read from its table if that is put together right whenever the table covers
what was left of the entries. -/
theorem readsWidened_table {record : Record α} (kind : String)
    (hnames : Config.names path = record.entries.map Entry.name)
    (hdistinct : (entries.map Prod.fst).Nodup)
    (hgives : ∀ wider, Table.Covers Config.names path (Toml.pruneEntries gone path entries) wider →
      record.Gives .configuration (Record.draftsIn wider) x) :
    ReadsWidened gone path (record.decoder kind) (.table entries) x := by
  have hpruned : Table.Distinct (Config.names path) (Toml.pruneEntries gone path entries) :=
    (hdistinct.sublist (Toml.map_fst_pruneEntries gone path entries)).filter _
  have hdecode : ∀ table, Table.Widens Config.names path (Toml.pruneEntries gone path entries) table →
      record.decoder kind .configuration (Value.table table).toDraft = .ok x := by
    intro table hwidens
    have hcovers := hwidens.covers hpruned
    exact (hgives table hcovers).decoder kind rfl (hnames ▸ hcovers.distinct)
  intro wider hwidens
  cases hwidens with
  | same => exact hdecode _ .refl
  | table hwidens => exact hdecode _ hwidens

end Settings

/-! ## The keys of the sections -/

theorem distinct_sources (kinds : SourceKinds) : (kinds.toTable.map Prod.fst).Nodup := by
  have hkeys : ["project", "script", "source", "signature"].Nodup := by decide
  exact hkeys

theorem distinct_server (settings : ServerSettings) : (settings.toTable.map Prod.fst).Nodup := by
  have hkeys : ["log_level", "log_rotation", "mailbox_capacity"].Nodup := by decide
  exact hkeys

theorem distinct_tool (command : ToolCommand) : (command.toTable.map Prod.fst).Nodup := by
  have hkeys : ["program", "args"].Nodup := by decide
  exact hkeys

theorem distinct_toolchain (settings : ToolSettings) :
    (settings.toTable.map Prod.fst).Nodup := by
  have hall : ["build_options", "frontend", "codegen"].Nodup := by decide
  have hentries : ∀ name command,
      ((ToolCommand.entries name command).map Prod.fst).Sublist [name] := by
    intro name command
    cases command with
    | none => exact List.nil_sublist [name]
    | some command => exact List.Sublist.refl [name]
  refine hall.sublist ?_
  rw [ToolSettings.toTable, List.map_append, List.map_append]
  exact ((hentries "build_options" _).append (hentries "frontend" _)).append (hentries "codegen" _)

theorem distinct_config (config : Config) : (config.toTable.map Prod.fst).Nodup := by
  have hkeys : ["sources", "server", "toolchain"].Nodup := by decide
  exact hkeys

/-! ## The sections -/

theorem decode_strings (texts : List String) :
    Decoder.list Decoder.string .configuration (Value.strings texts).toDraft = .ok texts := by
  have hitems : ∀ texts : List String, Decoder.items Decoder.string .configuration
      (Toml.draftsOf (texts.map .str)) = .ok texts := by
    intro texts
    induction texts with
    | nil => rfl
    | cons text rest ih =>
        rw [List.map_cons, Toml.draftsOf, Decoder.items, ih]
        rfl
  simp only [Value.strings, Value.toDraft, Decoder.list, Json.enter, Reading.configuration, bind,
    Except.bind] at hitems ⊢
  rw [hitems texts]
  rfl

theorem decode_natural (kind : String) {number : Nat} (hfits : number < 2 ^ 64) :
    Decoder.natural64 kind .configuration (Value.int number).toDraft = .ok number := by
  have hlow : (0 : Int) ≤ number := Int.natCast_nonneg number
  have hhigh : (number : Int) ≤ 0xffffffffffffffff := by omega
  simp only [Decoder.natural64, Decoder.map, Value.toDraft, Decoder.whole, hlow, hhigh,
    decide_true, Bool.and_self, if_true]
  rfl

theorem ReadsWidened.nullable {gone : List String → Bool} {path : List String} {x : α}
    {decode : Decoder α} {value : Value} (hreads : ReadsWidened gone path decode value x) :
    ReadsWidened gone path (Decoder.nullable decode) value (some x) := by
  intro wider hwidens
  have hread := hreads wider hwidens
  cases wider <;>
    (simp only [Value.toDraft] at hread ⊢
     simp only [Decoder.nullable, hread, Except.map])

section Sections

variable (gone : List String → Bool)

theorem reads_sources (kinds : SourceKinds) :
    ReadsWidened gone ["sources"] SourceKinds.decoder (.table kinds.toTable)
      (kinds.reset gone) := by
  refine readsWidened_table _ rfl (distinct_sources kinds) fun wider hcovers => ?_
  have hlist : ∀ {name texts default}, name ∈ Config.names ["sources"] →
      kinds.toTable.lookup name = some (Value.strings texts) →
      (Record.defaulted name default extensionsDecoder).Gives .configuration
        (Record.draftsIn wider) (if gone ["sources", name] then default else texts) :=
    fun hname hwritten => gives_written _ hcovers hname hwritten
      fun _ => readsWidened_of_plain rfl (decode_strings _)
  exact ((((Record.gives_pure _).seq (hlist (by decide) rfl)).seq (hlist (by decide) rfl)).seq
    (hlist (by decide) rfl)).seq (hlist (by decide) rfl)

theorem reads_server {settings : ServerSettings} (hfits : settings.mailboxCapacity < 2 ^ 64) :
    ReadsWidened gone ["server"] ServerSettings.decoder (.table settings.toTable)
      (settings.reset gone) := by
  refine readsWidened_table _ rfl (distinct_server settings) fun wider hcovers => ?_
  have htext : ∀ {name text default}, name ∈ Config.names ["server"] →
      settings.toTable.lookup name = some (.str text) →
      (Record.defaulted name default Decoder.string).Gives .configuration
        (Record.draftsIn wider) (if gone ["server", name] then default else text) :=
    fun hname hwritten => gives_written _ hcovers hname hwritten
      fun _ => readsWidened_of_plain rfl rfl
  have hcapacity : (Record.defaulted "mailbox_capacity" ServerSettings.standard.mailboxCapacity
      (Decoder.natural64 "usize")).Gives .configuration (Record.draftsIn wider) _ :=
    gives_written _ hcovers (by decide) rfl
      fun _ => readsWidened_of_plain rfl (decode_natural "usize" hfits)
  exact (((Record.gives_pure _).seq (htext (by decide) rfl)).seq (htext (by decide) rfl)).seq
    hcapacity

theorem reads_tool {name : String} (hprogram : gone ["toolchain", name, "program"] = false)
    (command : ToolCommand) :
    ReadsWidened gone ["toolchain", name] ToolCommand.decoder (.table command.toTable)
      (command.reset gone name) := by
  have hfirst : "program" ∈ ["program", "args"] := by decide
  have hsecond : "args" ∈ ["program", "args"] := by decide
  refine readsWidened_table _ rfl (distinct_tool command) fun wider hcovers => ?_
  have hprogram : (Record.required "program" Decoder.string).Gives .configuration
      (Record.draftsIn wider) command.program :=
    gives_kept hcovers hfirst rfl hprogram (readsWidened_of_plain rfl rfl)
  have harguments : (Record.defaulted "args" [] (Decoder.list Decoder.string)).Gives
      .configuration (Record.draftsIn wider) _ :=
    gives_written _ hcovers hsecond rfl
      fun _ => readsWidened_of_plain rfl (decode_strings command.arguments)
  exact ((Record.gives_pure _).seq hprogram).seq harguments

/-- The entry of a tool is found under its name, if it has one. -/
theorem lookup_toolchain (settings : ToolSettings) :
    settings.toTable.lookup "build_options" =
        settings.buildOptions.map (fun command => Value.table command.toTable) ∧
      settings.toTable.lookup "frontend" =
        settings.frontEnd.map (fun command => Value.table command.toTable) ∧
      settings.toTable.lookup "codegen" =
        settings.codeGen.map (fun command => Value.table command.toTable) := by
  obtain ⟨buildOptions, frontEnd, codeGen⟩ := settings
  cases buildOptions <;> cases frontEnd <;> cases codeGen <;> exact ⟨rfl, rfl, rfl⟩

theorem reads_toolchain (hprogram : ∀ name, gone ["toolchain", name] = false →
      gone ["toolchain", name, "program"] = false) (settings : ToolSettings) :
    ReadsWidened gone ["toolchain"] ToolSettings.decoder (.table settings.toTable)
      (settings.reset gone) := by
  refine readsWidened_table _ rfl (distinct_toolchain settings) fun wider hcovers => ?_
  have htool : ∀ {name} {command : Option ToolCommand}, name ∈ Config.names ["toolchain"] →
      settings.toTable.lookup name = command.map (fun command => Value.table command.toTable) →
      (Record.defaulted name none (Decoder.nullable ToolCommand.decoder)).Gives .configuration
        (Record.draftsIn wider)
        (if gone ["toolchain", name] then none else command.map (ToolCommand.reset gone name)) := by
    intro name command hname hlookup
    cases command with
    | none =>
        rw [Option.map_none, ite_self]
        exact gives_unwritten _ hcovers hname hlookup
    | some command =>
        exact gives_written _ hcovers hname hlookup fun hkept =>
          (reads_tool gone (hprogram name hkept) command).nullable
  obtain ⟨hbuildOptions, hfrontEnd, hcodeGen⟩ := lookup_toolchain settings
  exact (((Record.gives_pure _).seq (htool (by decide) hbuildOptions)).seq
    (htool (by decide) hfrontEnd)).seq (htool (by decide) hcodeGen)

/-- The settings in a table that they were written to, without what is gone and however wide
it is. -/
theorem reads_config (hprograms : KeepsPrograms gone) {config : Config}
    (hfits : config.server.mailboxCapacity < 2 ^ 64) :
    ReadsWidened gone [] Config.decoder (.table config.toTable) (config.reset gone) := by
  refine readsWidened_table _ rfl (distinct_config config) fun wider hcovers => ?_
  have hsources := gives_written SourceKinds.standard hcovers (by decide) rfl
    fun _ => reads_sources gone config.sources
  have hserver := gives_written ServerSettings.standard hcovers (by decide) rfl
    fun _ => reads_server gone hfits
  have htoolchain := gives_written ToolSettings.standard hcovers (by decide) rfl
    fun hkept => reads_toolchain gone (fun _ => hprograms.program hkept) config.toolchain
  exact (((Record.gives_pure _).seq hsources).seq hserver).seq htoolchain

end Sections

end CompileServer
