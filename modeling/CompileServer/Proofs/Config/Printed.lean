import CompileServer.CommandLine.Settings
import CompileServer.Proofs.Config.Overlay
import CompileServer.Proofs.Toml.Sections

/-!
# Settings as they are printed

Printed settings are loaded as they are.  Where something was left out of what is printed, or
added to it that names no setting, the settings that were left out have their defaults and all
others are as they were printed.
-/

namespace CompileServer

open Toml (Table Value Legible Printable nested nestingLimit)

/-! ## Documents of settings -/

theorem legible_strings (texts : List String) : Legible nestingLimit (.strings texts) :=
  Legible.list fun item hmem => by
    obtain ⟨text, -, rfl⟩ := List.mem_map.1 hmem
    exact Toml.legible_text _ text

/-- A table of lines alone. -/
theorem printable_lines {lines : Table} (room : Nat) (hkeys : (lines.map Prod.fst).Nodup)
    (hlines : ∀ entry ∈ lines, Legible nestingLimit entry.2 ∧ entry.2.isTable = false) :
    Printable (room + 1) lines := by
  have hall : Printable (room + 1) (lines ++ nested []) :=
    .mk (by rwa [List.map_nil, List.append_nil]) hlines
      fun _ hmem => absurd hmem List.not_mem_nil
  rwa [nested, List.map_nil, List.append_nil] at hall

/-- A table of tables alone. -/
theorem printable_nested {tables : List (String × Table)} {room : Nat}
    (hkeys : (tables.map Prod.fst).Nodup) (htables : ∀ entry ∈ tables, Printable room entry.2) :
    Printable (room + 1) (nested tables) :=
  .mk (by rwa [List.map_nil, List.nil_append]) (fun _ hmem => absurd hmem List.not_mem_nil) htables

theorem printable_sources (kinds : SourceKinds) (room : Nat) :
    Printable (room + 1) kinds.toTable := by
  refine printable_lines room (distinct_sources kinds) ?_
  simp only [SourceKinds.toTable, List.forall_mem_cons]
  exact ⟨⟨legible_strings _, rfl⟩, ⟨legible_strings _, rfl⟩, ⟨legible_strings _, rfl⟩,
    ⟨legible_strings _, rfl⟩, fun _ hmem => absurd hmem List.not_mem_nil⟩

theorem printable_server {settings : ServerSettings}
    (hfits : settings.mailboxCapacity < 2 ^ 64) (room : Nat) :
    Printable (room + 1) settings.toTable := by
  have hcapacity : settings.mailboxCapacity < 2 ^ 128 := Nat.lt_trans hfits (by decide)
  refine printable_lines room (distinct_server settings) ?_
  simp only [ServerSettings.toTable, List.forall_mem_cons]
  exact ⟨⟨Toml.legible_text _ _, rfl⟩, ⟨Toml.legible_text _ _, rfl⟩,
    ⟨Toml.legible_number _ hcapacity, rfl⟩, fun _ hmem => absurd hmem List.not_mem_nil⟩

theorem printable_tool (command : ToolCommand) (room : Nat) :
    Printable (room + 1) command.toTable := by
  refine printable_lines room (distinct_tool command) ?_
  simp only [ToolCommand.toTable, List.forall_mem_cons]
  exact ⟨⟨Toml.legible_text _ _, rfl⟩, ⟨legible_strings _, rfl⟩,
    fun _ hmem => absurd hmem List.not_mem_nil⟩

/-- A tool that is configured, under its name. -/
def ToolCommand.named (name : String) (command : Option ToolCommand) : List (String × Table) :=
  (command.map fun command => (name, command.toTable)).toList

theorem entries_eq_nested (name : String) (command : Option ToolCommand) :
    ToolCommand.entries name command = nested (ToolCommand.named name command) := by
  cases command <;> rfl

theorem printable_toolchain (settings : ToolSettings) (room : Nat) :
    Printable (room + 2) settings.toTable := by
  have hnested : settings.toTable = nested (ToolCommand.named "build_options" settings.buildOptions
      ++ ToolCommand.named "frontend" settings.frontEnd
      ++ ToolCommand.named "codegen" settings.codeGen) := by
    simp only [ToolSettings.toTable, entries_eq_nested, nested, List.map_append]
  have hkeys := distinct_toolchain settings
  rw [hnested, nested, List.map_map] at hkeys
  rw [hnested]
  refine printable_nested hkeys fun entry hmem => ?_
  have hnamed : ∀ {name command}, entry ∈ ToolCommand.named name command →
      Printable (room + 1) entry.2 := by
    intro name command hentry
    obtain ⟨command, -, rfl⟩ := Option.map_eq_some_iff.1 (Option.mem_toList.1 hentry)
    exact printable_tool command room
  rcases List.mem_append.1 hmem with hmem | hmem
  · rcases List.mem_append.1 hmem with hmem | hmem
    · exact hnamed hmem
    · exact hnamed hmem
  · exact hnamed hmem

theorem printable_config {config : Config} (hfits : config.server.mailboxCapacity < 2 ^ 64) :
    Printable 3 config.toTable := by
  have hsections : Printable 3 (nested [("sources", config.sources.toTable),
      ("server", config.server.toTable), ("toolchain", config.toolchain.toTable)]) := by
    refine printable_nested (distinct_config config) ?_
    simp only [List.forall_mem_cons]
    exact ⟨printable_sources _ 1, printable_server hfits 1, printable_toolchain _ 0,
      fun _ hmem => absurd hmem List.not_mem_nil⟩
  exact hsections

/-! ## Loading -/

theorem reset_none (config : Config) : config.reset (fun _ => false) = config := by
  obtain ⟨⟨project, script, source, signature⟩, server, ⟨buildOptions, frontEnd, codeGen⟩⟩ := config
  have htool : ∀ name (command : Option ToolCommand),
      command.map (ToolCommand.reset (fun _ => false) name) = command := by
    intro name command
    cases command <;> rfl
  simp only [Config.reset, SourceKinds.reset, ServerSettings.reset, ToolSettings.reset, htool,
    Bool.false_eq_true, if_false]

/-- The settings in a table that has all that was printed but what is gone. -/
theorem ofTable?_widened {gone : List String → Bool} (hprograms : KeepsPrograms gone)
    {config : Config} (hfits : config.server.mailboxCapacity < 2 ^ 64) {wider : Table}
    (hwidens : Table.Widens Config.names [] (Toml.pruneEntries gone [] config.toTable) wider) :
    Config.ofTable? wider = some (config.reset gone) := by
  have hread := reads_config gone hprograms hfits (.table wider) (.table hwidens)
  rw [Config.ofTable?, hread]

/-- What is printed of settings without what is gone, with blank lines after it. -/
theorem parse?_print_prune {gone : List String → Bool} (hprograms : KeepsPrograms gone)
    {config : Config} (hfits : config.server.mailboxCapacity < 2 ^ 64) (blanks : Nat) :
    Config.parse? (Toml.print (Toml.pruneEntries gone [] config.toTable) ++
      Toml.blankLines blanks) = some (config.reset gone) := by
  have hparsed := ((printable_config hfits).prune gone []).parse?_print
    (show 3 ≤ nestingLimit by decide) blanks
  rw [Config.parse?, hparsed, Option.bind_some, ofTable?_widened hprograms hfits .refl]

namespace Config

/-- The settings are read from the text and loaded from every file that holds it. -/
def LoadsAs (text : String) (config : Config) : Prop :=
  parse? text = some config ∧
    ∀ (files : FileSystem) (path : Path), files.readText path = .ok text →
      load files path = .ok config

theorem loadsAs_of_parse? {text : String} {config : Config} (hparsed : parse? text = some config) :
    LoadsAs text config := by
  refine ⟨hparsed, fun files path htext => ?_⟩
  rw [load, htext]
  dsimp only
  rw [hparsed]

/-- What is shown of settings ends in what is printed of them. -/
theorem exists_heading (machine : Machine) (file : Option String) :
    ∃ heading, ∀ config : Config,
      Settings.describe machine file config = heading ++ (config.print ++ "\n") := by
  refine ⟨"Effective configuration for: "
    ++ Text.quoted (FileSystem.pathOf machine.files.current).text ++ "\n\n"
    ++ Settings.source machine file ++ "\n\n", fun config => ?_⟩
  unfold Settings.describe
  exact String.append_assoc

/-- Loading settings overlays the defaults and takes back printing.  Whatever is left out of the
table that settings are printed as, other than the program of a tool that stays, and whatever is
added to it under keys that are no settings, its documents load as the settings with the
defaults for what was left out.  What the command that shows settings prints after its heading
loads as the settings themselves. -/
theorem loads_overlay {config : Config} (hfits : config.server.mailboxCapacity < 2 ^ 63) :
    (∀ gone, KeepsPrograms gone → ∀ wider,
      Table.Widens Config.names [] (Toml.pruneEntries gone [] config.toTable) wider →
      ∀ text, Toml.parse? text = some wider → LoadsAs text (config.reset gone)) ∧
    (∀ gone, KeepsPrograms gone →
      LoadsAs (Toml.print (Toml.pruneEntries gone [] config.toTable)) (config.reset gone)) ∧
    LoadsAs config.print config ∧
    ∀ machine file, ∃ heading,
      Settings.describe machine file config = heading ++ (config.print ++ "\n") ∧
        LoadsAs (config.print ++ "\n") config := by
  have hcapacity : config.server.mailboxCapacity < 2 ^ 64 := Nat.lt_trans hfits (by decide)
  have hpruned : ∀ gone, KeepsPrograms gone → ∀ blanks,
      LoadsAs (Toml.print (Toml.pruneEntries gone [] config.toTable) ++
        Toml.blankLines blanks) (config.reset gone) :=
    fun gone hprograms blanks =>
      loadsAs_of_parse? (parse?_print_prune hprograms hcapacity blanks)
  have hprinted : ∀ blanks, LoadsAs (config.print ++ Toml.blankLines blanks) config := by
    intro blanks
    have hwhole := hpruned (fun _ => false) (fun _ hgone => absurd hgone Bool.false_ne_true) blanks
    rwa [Toml.pruneEntries_none, reset_none] at hwhole
  refine ⟨fun gone hprograms wider hwidens text htext => ?_, fun gone hprograms => ?_, ?_,
    fun machine file => ?_⟩
  · apply loadsAs_of_parse?
    rw [parse?, htext, Option.bind_some, ofTable?_widened hprograms hcapacity hwidens]
  · have hbare := hpruned gone hprograms 0
    rwa [Toml.append_blankLines_zero] at hbare
  · have hbare := hprinted 0
    rwa [Toml.append_blankLines_zero] at hbare
  · have hline : Toml.blankLines 1 = "\n" := rfl
    have hended := hprinted 1
    rw [hline] at hended
    obtain ⟨heading, hheading⟩ := exists_heading machine file
    exact ⟨heading, hheading config, hended⟩

/-- Settings with one tool. -/
def sample : Config :=
  ⟨⟨["proj"], [], ["src"], []⟩, ⟨"debug", "hourly", 16⟩,
    ⟨none, some ⟨"checker", ["--json"]⟩, none⟩⟩

/-- The sources, the rotation of the log and the arguments of tools. -/
def sampleGone (path : List String) : Bool :=
  path = ["sources"] || path = ["server", "log_rotation"] || path.getLast? = some "args"

/-- The table of the settings without what is gone, with one key more at every depth. -/
def sampleTable : Table :=
  [("owner", .str "me"),
    ("server", .table [("log_level", .str "debug"), ("mailbox_capacity", .int 16),
      ("colour", .int 1)]),
    ("toolchain", .table [("frontend", .table [("verbose", .strings ["yes"]),
      ("program", .str "checker")])])]

theorem widens_sampleTable :
    Table.Widens Config.names [] (Toml.pruneEntries sampleGone [] sample.toTable) sampleTable := by
  have howner : "owner" ∉ Config.names [] := by decide
  have hcolour : "colour" ∉ Config.names ["server"] := by decide
  have hverbose : "verbose" ∉ Config.names ["toolchain", "frontend"] := by decide
  have hfirst := Table.Step.add [] (Toml.pruneEntries sampleGone [] sample.toTable) (.str "me") howner
  have hsecond := Table.Step.add [("log_level", .str "debug"), ("mailbox_capacity", .int 16)] []
    (.int 1) hcolour
  have hthird := Table.Step.add [] [("program", .str "checker")] (.strings ["yes"]) hverbose
  exact ((Relation.ReflTransGen.single hfirst).tail (.inside [("owner", .str "me")] _ hsecond)).tail
    (.inside (_ :: [_]) [] (.inside [] [] hthird))

theorem parse?_sampleTable : Toml.parse? (Toml.print sampleTable) = some sampleTable := by
  have htext : ∀ text, Legible nestingLimit (.str text) ∧ (Value.str text).isTable = false :=
    fun text => ⟨Toml.legible_text _ text, rfl⟩
  have hnumber : ∀ {number : Nat}, number < 2 ^ 128 →
      Legible nestingLimit (.int number) ∧ (Value.int number).isTable = false :=
    fun hfits => ⟨Toml.legible_number _ hfits, rfl⟩
  have hserver : Printable 2 [("log_level", .str "debug"), ("mailbox_capacity", .int 16),
      ("colour", .int 1)] := by
    refine printable_lines 1 (by decide) ?_
    simp only [List.forall_mem_cons]
    exact ⟨htext _, hnumber (by decide), hnumber (by decide), nofun⟩
  have htool : Printable 1 [("verbose", .strings ["yes"]), ("program", .str "checker")] := by
    refine printable_lines 0 (by decide) ?_
    simp only [List.forall_mem_cons]
    exact ⟨⟨legible_strings _, rfl⟩, htext _, nofun⟩
  have htoolchain : Printable 2 (nested [("frontend",
      [("verbose", .strings ["yes"]), ("program", .str "checker")])]) := by
    refine printable_nested (by decide) ?_
    simp only [List.forall_mem_cons]
    exact ⟨htool, nofun⟩
  have hwhole : Printable 3 ([("owner", .str "me")] ++ nested [("server",
      [("log_level", .str "debug"), ("mailbox_capacity", .int 16), ("colour", .int 1)]),
      ("toolchain", nested [("frontend",
        [("verbose", .strings ["yes"]), ("program", .str "checker")])])]) := by
    refine .mk (by decide) ?_ ?_
    · simp only [List.forall_mem_cons]
      exact ⟨htext _, nofun⟩
    · simp only [List.forall_mem_cons]
      exact ⟨hserver, htoolchain, nofun⟩
  have hparsed := hwhole.parse?_print (show 3 ≤ nestingLimit by decide) 0
  rwa [Toml.append_blankLines_zero] at hparsed

theorem print_sampleTable : Toml.print sampleTable =
    "owner = \"me\"\n\n[server]\nlog_level = \"debug\"\nmailbox_capacity = 16\ncolour = 1\n\n"
      ++ "[toolchain.frontend]\nverbose = [\"yes\"]\nprogram = \"checker\"\n" := by
  decide +kernel

theorem loads_partialDocument :
    LoadsAs
      ("owner = \"me\"\n\n[server]\nlog_level = \"debug\"\nmailbox_capacity = 16\ncolour = 1\n\n"
        ++ "[toolchain.frontend]\nverbose = [\"yes\"]\nprogram = \"checker\"\n")
      ⟨.standard, ⟨"debug", "daily", 16⟩, ⟨none, some ⟨"checker", []⟩, none⟩⟩ := by
  have hfits : sample.server.mailboxCapacity < 2 ^ 63 := by decide
  have hprograms : KeepsPrograms sampleGone := by
    simp [KeepsPrograms, sampleGone]
  have hreset : sample.reset sampleGone =
      ⟨.standard, ⟨"debug", "daily", 16⟩, ⟨none, some ⟨"checker", []⟩, none⟩⟩ := by
    decide
  rw [← print_sampleTable, ← hreset]
  exact (loads_overlay hfits).1 sampleGone hprograms sampleTable widens_sampleTable _
    parse?_sampleTable

end Config

end CompileServer
