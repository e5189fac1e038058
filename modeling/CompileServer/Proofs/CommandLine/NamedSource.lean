import CompileServer.CommandLine.Run
import CompileServer.Proofs.FileSystem.Walk

/-!
# The source that is named for the settings

Settings for a folder come from the file of the folder, the file of the user or the defaults.
The command that shows them names the first of the two files that is there; what it shows
comes from the first that can be used.  Both searches look at the same files in the same
order, so the words are right exactly if the file that they name can be used.
-/

namespace CompileServer.Settings

/-- Where settings may come from. -/
inductive Source where
  | project (file : Path)
  | user (file : Path)
  | defaults
deriving DecidableEq, Repr

namespace Source

/-- The words that name a source. -/
def words : Source → String
  | .project file => "Using project config: " ++ Text.quoted file.text
  | .user file => "Using user config: " ++ Text.quoted file.text
  | .defaults => "Using default configuration (no config file found)"

/-- The file of a source; the defaults have none. -/
def file? : Source → Option Path
  | .project file => some file
  | .user file => some file
  | .defaults => none

/-- The settings are those of the source. -/
def Gives (files : FileSystem) (source : Source) (config : Config) : Prop :=
  match source.file? with
  | some file => Config.load files file = .ok config
  | none => config = .standard

/-- The first source whose file passes a test, else the defaults. -/
def first (test : Path → Bool) (project user : Path) : Source :=
  if test project then .project project
  else if test user then .user user
  else .defaults

variable {test other : Path → Bool} {project user : Path}

theorem test_of_file?_first {file : Path} (hfile : (first test project user).file? = some file) :
    test file = true := by
  unfold first at hfile
  split at hfile
  · rename_i hproject
    cases hfile
    exact hproject
  · split at hfile
    · rename_i huser
      cases hfile
      exact huser
    · cases hfile

theorem first_eq_defaults_iff (test : Path → Bool) (project user : Path) :
    first test project user = .defaults ↔ test project = false ∧ test user = false := by
  unfold first
  cases test project <;> cases test user <;> simp

/-- A stricter test finds the same source if the file found first passes it, too. -/
theorem first_eq_of_stricter (hstricter : ∀ file, other file = true → test file = true)
    (hpasses : ∀ file, (first test project user).file? = some file → other file = true) :
    first other project user = first test project user := by
  have hfails : ∀ file, test file = false → other file = false := fun file hfile => by
    rw [← Bool.not_eq_true] at hfile ⊢
    exact fun hother => hfile (hstricter file hother)
  unfold first at hpasses ⊢
  cases hproject : test project with
  | true =>
      simp only [hproject, if_true] at hpasses ⊢
      rw [hpasses project rfl, if_pos rfl]
  | false =>
      simp only [hproject, hfails project hproject, Bool.false_eq_true, if_false] at hpasses ⊢
      cases huser : test user with
      | true =>
          simp only [huser, if_true] at hpasses ⊢
          rw [hpasses user rfl, if_pos rfl]
      | false => simp only [hfails user huser, Bool.false_eq_true, if_false]

end Source

/-- The folder that the program was started in. -/
def folder (machine : Machine) : Path :=
  FileSystem.pathOf machine.files.current

/-- The first source whose file passes a test on a machine. -/
def firstSource (machine : Machine) (test : Path → Bool) : Source :=
  .first test (Config.projectPath (folder machine)) (Config.userPath machine.environment)

/-- Whether a file is there and holds settings. -/
def isUsable (files : FileSystem) (file : Path) : Bool :=
  (Config.loadIfUsable files file).isSome

/-- The source that is named: the first whose file is there. -/
def named (machine : Machine) : Source :=
  firstSource machine machine.files.has

/-- The source that is used: the first whose file can be used. -/
def used (machine : Machine) : Source :=
  firstSource machine (isUsable machine.files)

/-- The settings that hold on a machine when no file is asked for. -/
def shown (machine : Machine) : Config :=
  Config.loadFor machine.files machine.environment (folder machine)

/-- What is printed about settings and their source. -/
def report (machine : Machine) (source : Source) (config : Config) : String :=
  "Effective configuration for: " ++ Text.quoted (folder machine).text ++ "\n\n"
    ++ source.words ++ "\n\n" ++ config.print ++ "\n"

/-- The settings that hold are those of the source that is named. -/
def NamesItsSource (machine : Machine) : Prop :=
  (named machine).Gives machine.files (shown machine)

theorem isUsable_iff {files : FileSystem} {file : Path} :
    isUsable files file = true ↔
      files.has file = true ∧ ∃ config, Config.load files file = .ok config := by
  unfold isUsable Config.loadIfUsable
  cases files.has file with
  | false => simp
  | true => cases Config.load files file <;> simp [Except.toOption]

theorem loadIfUsable_eq_some {files : FileSystem} {file : Path} {config : Config}
    (hload : Config.loadIfUsable files file = some config) :
    Config.load files file = .ok config := by
  unfold Config.loadIfUsable at hload
  split at hload
  · cases hresult : Config.load files file with
    | error fault => simp [hresult, Except.toOption] at hload
    | ok found =>
        rw [hresult, Except.toOption, Option.some.injEq] at hload
        rw [hload]
  · cases hload

/-- The settings that hold are those of the source that is used. -/
theorem gives_used (machine : Machine) : (used machine).Gives machine.files (shown machine) := by
  unfold used firstSource Source.first shown Config.loadFor isUsable
  cases hproject : Config.loadIfUsable machine.files (Config.projectPath (folder machine)) with
  | some config => exact loadIfUsable_eq_some hproject
  | none =>
      cases huser : Config.loadIfUsable machine.files (Config.userPath machine.environment) with
      | some config => exact loadIfUsable_eq_some huser
      | none => rfl

theorem source_eq_words (machine : Machine) : source machine none = (named machine).words := by
  unfold source named firstSource Source.first folder
  dsimp only
  split
  · rfl
  · split <;> rfl

/-- The right source is named exactly if the file that is named can be used. -/
theorem namesItsSource_iff (machine : Machine) :
    NamesItsSource machine ↔ ∀ file, (named machine).file? = some file →
      ∃ config, Config.load machine.files file = .ok config := by
  constructor
  · intro hnames file hfile
    unfold NamesItsSource Source.Gives at hnames
    rw [hfile] at hnames
    exact ⟨_, hnames⟩
  · intro hloads
    have husable : ∀ file, (named machine).file? = some file →
        isUsable machine.files file = true := fun file hfile =>
      isUsable_iff.2 ⟨Source.test_of_file?_first hfile, hloads file hfile⟩
    have hsame : used machine = named machine :=
      Source.first_eq_of_stricter (fun file hfile => (isUsable_iff.1 hfile).1) husable
    unfold NamesItsSource
    rw [← hsame]
    exact gives_used machine

theorem describe_eq_report (machine : Machine) (config : Config) :
    describe machine none config = report machine (named machine) config := by
  unfold describe report folder
  rw [source_eq_words]

theorem planFor_showConfig (machine : Machine) :
    Program.planFor machine ⟨none, .showConfig⟩ =
      .finish ⟨0, report machine (named machine) (shown machine), [], machine⟩ := by
  rw [← describe_eq_report]
  rfl

/-- Showing the settings names the first file that is there and shows the settings of the
first that can be used; these agree exactly if the file that is named can be used.  The
defaults are named only if there is neither file. -/
theorem showConfig_namesFirst (machine : Machine) :
    Program.planFor machine ⟨none, .showConfig⟩ =
        .finish ⟨0, report machine (named machine) (shown machine), [], machine⟩ ∧
      (used machine).Gives machine.files (shown machine) ∧
      (NamesItsSource machine ↔ ∀ file, (named machine).file? = some file →
        ∃ config, Config.load machine.files file = .ok config) ∧
      (named machine = .defaults ↔
        machine.files.has (Config.projectPath (folder machine)) = false ∧
          machine.files.has (Config.userPath machine.environment) = false) := by
  refine ⟨planFor_showConfig machine, gives_used machine, namesItsSource_iff machine, ?_⟩
  exact Source.first_eq_defaults_iff machine.files.has _ _

/-- A machine on which the file of the current folder breaks off inside a header. -/
def brokenFile : Machine where
  files := ⟨[(["w"], .folder), (["w", ".compilerd.toml"], .file "[server\n".toUTF8)], ["w"]⟩
  environment := ⟨[], ⟨"/home"⟩⟩

theorem find_brokenFile : brokenFile.files.find true ⟨"/w/.compilerd.toml"⟩ =
    .ok (.file ["w", ".compilerd.toml"] "[server\n".toUTF8 false) := by
  have hnames : FileSystem.namesOf "/w/.compilerd.toml" = ["", "w", ".compilerd.toml"] := by
    decide +kernel
  have hplain : ∀ bounded, FileSystem.faultOf? bounded ⟨"/w/.compilerd.toml"⟩ = none := by
    decide +kernel
  have hstart : brokenFile.files.startOf ⟨"/w/.compilerd.toml"⟩ = [] := by decide +kernel
  simp only [FileSystem.find, FileSystem.locate, hplain, hstart, hnames]
  rw [FileSystem.walk_blank, FileSystem.walk_folder (by decide +kernel) rfl]
  exact FileSystem.walk_file (by decide +kernel) rfl

theorem find_brokenFile_user : brokenFile.files.find true
    ⟨"/home/.config/compilerd/config.toml"⟩ = .error .notFound := by
  have hnames : FileSystem.namesOf "/home/.config/compilerd/config.toml" =
      ["", "home", ".config", "compilerd", "config.toml"] := by
    decide +kernel
  have hplain : ∀ bounded,
      FileSystem.faultOf? bounded ⟨"/home/.config/compilerd/config.toml"⟩ = none := by
    decide +kernel
  have hstart : brokenFile.files.startOf ⟨"/home/.config/compilerd/config.toml"⟩ = [] := by
    decide +kernel
  simp only [FileSystem.find, FileSystem.locate, hplain, hstart, hnames]
  rw [FileSystem.walk_blank]
  exact FileSystem.walk_lost (by decide +kernel) rfl (by decide +kernel)

theorem load_brokenFile : Config.load brokenFile.files ⟨"/w/.compilerd.toml"⟩ =
    .error (.parse ⟨"/w/.compilerd.toml"⟩) := by
  have htext : String.fromUTF8? "[server\n".toUTF8 = some "[server\n" := by decide +kernel
  have hparse : Config.parse? "[server\n" = none := by decide +kernel
  simp only [Config.load, FileSystem.readText, FileSystem.read, find_brokenFile, htext, hparse]

/-- A file that is there but holds no settings is named all the same, above the defaults. -/
theorem misnamed_brokenFile :
    Program.plan brokenFile ["config", "show"] =
        .finish ⟨0, report brokenFile (.project ⟨"/w/.compilerd.toml"⟩) .standard, [],
          brokenFile⟩ ∧
      Config.load brokenFile.files ⟨"/w/.compilerd.toml"⟩ =
        .error (.parse ⟨"/w/.compilerd.toml"⟩) ∧
      ¬ ∀ machine, NamesItsSource machine := by
  have hproject : Config.projectPath (folder brokenFile) = ⟨"/w/.compilerd.toml"⟩ := by
    decide +kernel
  have huser : Config.userPath brokenFile.environment =
      ⟨"/home/.config/compilerd/config.toml"⟩ := by
    decide +kernel
  have hthere : brokenFile.files.has ⟨"/w/.compilerd.toml"⟩ = true := by
    simp only [FileSystem.has, find_brokenFile, Bool.not_false]
  have hgone : brokenFile.files.has ⟨"/home/.config/compilerd/config.toml"⟩ = false := by
    simp only [FileSystem.has, find_brokenFile_user]
  have hnamed : named brokenFile = .project ⟨"/w/.compilerd.toml"⟩ := by
    rw [named, firstSource, Source.first, hproject, if_pos hthere]
  have hshown : shown brokenFile = .standard := by
    simp only [shown, Config.loadFor, Config.loadIfUsable, hproject, huser, hthere, hgone,
      load_brokenFile, if_true, Bool.false_eq_true, if_false, Except.toOption, Option.getD_none]
  refine ⟨?_, load_brokenFile, fun hnames => ?_⟩
  · have hread : Invocation.ofArguments ["config", "show"] = .ok ⟨none, .showConfig⟩ := rfl
    rw [Program.plan, hread, ← hnamed, ← hshown]
    exact planFor_showConfig brokenFile
  · have hgives := hnames brokenFile
    unfold NamesItsSource Source.Gives at hgives
    rw [hnamed] at hgives
    cases load_brokenFile.symm.trans hgives

end CompileServer.Settings
