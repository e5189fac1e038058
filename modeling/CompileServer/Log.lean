import CompileServer.Path.Basic

/-!
# Logs

Every request has a log of its own, to which entries are only ever added.
-/

namespace CompileServer

/-- How grave an entry is. -/
inductive Severity where
  | error
  | warning
  | info
deriving DecidableEq, Repr

/-- Where an entry comes from. -/
inductive LogOrigin where
  | frontEnd
  | codeGen
  | plugin
  | service
deriving DecidableEq, Repr

/-- A stretch of a file, in lines and columns counted from one. -/
structure SourceRange where
  startLine : Nat
  startColumn : Nat
  endLine : Nat
  endColumn : Nat
deriving DecidableEq, Repr

/-- What the front-end has to say about a file. -/
structure Diagnostic where
  message : String
  severity : Severity
  range : Option SourceRange
  file : Option Path
deriving DecidableEq, Repr

namespace Diagnostic

/-- An error that belongs to no file. -/
def error (message : String) : Diagnostic :=
  ⟨message, .error, none, none⟩

/-- A warning that belongs to no file. -/
def warning (message : String) : Diagnostic :=
  ⟨message, .warning, none, none⟩

/-- The diagnostic for a stretch of a file. -/
def locatedAt (diagnostic : Diagnostic) (file : Path) (range : SourceRange) : Diagnostic :=
  { diagnostic with file := some file, range := some range }

end Diagnostic

/-- An entry of a log. -/
structure LogEntry where
  message : String
  severity : Severity
  range : Option SourceRange
  file : Option Path
  origin : LogOrigin
deriving DecidableEq, Repr

/-- The entry for a diagnostic, with its origin. -/
def Diagnostic.entry (origin : LogOrigin) (diagnostic : Diagnostic) : LogEntry :=
  ⟨diagnostic.message, diagnostic.severity, diagnostic.range, diagnostic.file, origin⟩

/-- A log, oldest entry first. -/
abbrev Log := List LogEntry

namespace Log

/-- Adds an entry. -/
def push (log : Log) (entry : LogEntry) : Log :=
  log ++ [entry]

/-- Adds a diagnostic of the front-end. -/
def diagnostic (log : Log) (diagnostic : Diagnostic) : Log :=
  log.push (diagnostic.entry .frontEnd)

/-- Adds a warning. -/
def warn (log : Log) (origin : LogOrigin) (message : String) (file : Option Path) : Log :=
  log.push ⟨message, .warning, none, file, origin⟩

/-- Adds an error. -/
def error (log : Log) (origin : LogOrigin) (message : String) (file : Option Path) : Log :=
  log.push ⟨message, .error, none, file, origin⟩

/-- Whether an entry is an error. -/
def hasErrors (log : Log) : Bool :=
  log.any fun entry => entry.severity = .error

end Log

end CompileServer
