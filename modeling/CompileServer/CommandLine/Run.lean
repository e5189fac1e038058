import CompileServer.CommandLine.Invocation
import CompileServer.CommandLine.Settings
import CompileServer.Server.Run
import CompileServer.Tool.Host

/-!
# Running the program

Arguments that make no sense end in status 2 before anything else happens, and failures
end in status 1.  A server that was set up runs until its input ends.
-/

namespace CompileServer

/-- A cause of a failure, numbered if there are others. -/
def Causes.listed (causes : Causes) : List String :=
  match causes with
  | [cause] => ["    " ++ cause]
  | causes => causes.mapIdx fun position cause => "    " ++ toString position ++ ": " ++ cause

/-- The report of a failure: the outermost cause, and below it those that led to it. -/
def Causes.report : Causes → String
  | [] => ""
  | [cause] => "Error: " ++ cause ++ "
"
  | cause :: others =>
    "Error: " ++ cause ++ "

Caused by:
" ++ "
".intercalate (Causes.listed others) ++ "
"

/-- The server that the program runs. -/
abbrev ToolServer := Server Machine ToolAnalysis

/-- How a run of the program ends unless it serves. -/
structure Outcome where
  status : Nat
  output : String
  /-- Why it failed, the outermost cause first. -/
  failure : Causes
  machine : Machine

/-- What the program does after it has looked at its arguments and settings. -/
inductive Plan where
  | finish (outcome : Outcome)
  | serve (settings : CompilerSettings) (tools : Toolchain)

namespace Program

/-- How the program is used. -/
def usage : String :=
  "Usage: compilerd [--config <FILE>] <COMMAND>\n\nCommands:\n"
    ++ "  serve [--foreground]  Serve compile requests on stdin/stdout\n"
    ++ "  config show           Show current effective configuration\n"
    ++ "  config init           Write a config template to the current directory\n"

/-- The outcome of a run that failed. -/
def failed (machine : Machine) (causes : Causes) : Outcome :=
  ⟨1, "", causes, machine⟩

/-- The outcome of a command that is no server. -/
def outcomeOf (machine : Machine) : Except Causes (String × Machine) → Outcome
  | .ok (output, changed) => ⟨0, output, [], changed⟩
  | .error causes => failed machine causes

/-- What an invocation leads to. -/
def planFor (machine : Machine) (invocation : Invocation) : Plan :=
  match Settings.load machine invocation.config with
  | .error causes => .finish (failed machine causes)
  | .ok config =>
    match invocation.command with
    | .showConfig =>
      .finish ⟨0, Settings.describe machine invocation.config config, [], machine⟩
    | .initConfig => .finish (outcomeOf machine (Settings.createFile machine))
    | .serve _ =>
      match Toolchain.ofSettings config.toolchain with
      | .ok tools => .serve (.ofConfig config) tools
      | .error missing =>
        .finish (failed machine ["Toolchain is not configured", missing.message])

/-- What the arguments lead to. -/
def plan (machine : Machine) (arguments : List String) : Plan :=
  match Invocation.ofArguments arguments with
  | .ok invocation => planFor machine invocation
  | .error .help => .finish ⟨0, usage, [], machine⟩
  | .error .wrong => .finish ⟨2, "", [], machine⟩

/-- What does not change while the server runs. -/
def serverContext (settings : CompilerSettings) (tools : Toolchain) (freshId : Nat → String) :
    ServerContext Machine ToolAnalysis :=
  ⟨tools.host, settings, freshId⟩

/-- The server before its input arrives. -/
def server (machine : Machine) : ToolServer :=
  .listen (.start machine)

/-- Runs the program with all of its input at hand: its outcome, and what it answered. -/
def run (freshId : Nat → String) (machine : Machine) (arguments : List String)
    (input : List UInt8) : Outcome × List Response :=
  match plan machine arguments with
  | .finish outcome => (outcome, [])
  | .serve settings tools =>
    let server := (server machine).feed (Frame.ofBytes input) |>.endInput
      |>.serve (serverContext settings tools freshId)
    (⟨0, "", [], server.actor.session.world⟩, server.written)

end Program

end CompileServer
