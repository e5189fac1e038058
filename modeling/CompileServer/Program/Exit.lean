/-!
# How programs end

A program ends with a status of its own, or a signal ends it.
-/

namespace CompileServer

/-- How a program ended. -/
inductive Exit where
  /-- It ended by itself. -/
  | status (code : Nat)
  /-- A signal ended it. -/
  | signal (number : Nat)
deriving DecidableEq, Repr

namespace Exit

/-- The names of the signals, from the first on. -/
def signalNames : List String :=
  ["HUP", "INT", "QUIT", "ILL", "TRAP", "ABRT", "BUS", "FPE", "KILL", "USR1", "SEGV", "USR2",
    "PIPE", "ALRM", "TERM", "STKFLT", "CHLD", "CONT", "STOP", "TSTP", "TTIN", "TTOU", "URG",
    "XCPU", "XFSZ", "VTALRM", "PROF", "WINCH", "IO", "PWR", "SYS"]

/-- The name of a signal. -/
def signalName? (number : Nat) : Option String :=
  match number with
  | 0 => none
  | n + 1 => signalNames[n]?

/-- The signal with a name. -/
def signalNumber? (name : String) : Option Nat :=
  (signalNames.idxOf? name).map (· + 1)

/-- The words for the signals, from the first on. -/
def signalWords : List String :=
  ["Hangup", "Interrupt", "Quit", "Illegal instruction", "Trace/breakpoint trap", "Aborted",
    "Bus error", "Floating point exception", "Killed", "User defined signal 1",
    "Segmentation fault", "User defined signal 2", "Broken pipe", "Alarm clock", "Terminated",
    "Stack fault", "Child exited", "Continued", "Stopped (signal)", "Stopped",
    "Stopped (tty input)", "Stopped (tty output)", "Urgent I/O condition",
    "CPU time limit exceeded", "File size limit exceeded", "Virtual timer expired",
    "Profiling timer expired", "Window changed", "I/O possible", "Power failure",
    "Bad system call"]

/-- The first of the signals that have no names. -/
def firstNameless : Nat := 34

/-- The words for a signal. -/
def signalDescription (number : Nat) : String :=
  match signalWords[number - 1]? with
  | some words => words
  | none =>
    if firstNameless ≤ number then "Real-time signal " ++ toString (number - firstNameless)
    else "Unknown signal " ++ toString number

/-- The signals that end no program: it ignores them or stands still. -/
def isHarmless (number : Nat) : Bool :=
  [0, 17, 18, 19, 20, 21, 22, 23, 28].contains number

/-- Whether the program reported success. -/
def isSuccess (exit : Exit) : Bool :=
  exit = .status 0

/-- The words for how a program ended. -/
def text : Exit → String
  | .status code => "exit status: " ++ toString code
  | .signal number =>
    match signalName? number with
    | some name => "signal: " ++ toString number ++ " (SIG" ++ name ++ ")"
    | none => "signal: " ++ toString number

end Exit

end CompileServer
