/-!
# Flags

The flags among the arguments of a program: letters after a dash, some of which take a
value.  Flags may stand after other arguments, up to two dashes.
-/

namespace CompileServer.Shell

/-- The flags that a program knows. -/
structure FlagSet where
  /-- The letters that stand alone. -/
  plain : String
  /-- The letters that take a value. -/
  valued : String
  /-- Whether flags stand in front of all other arguments only. -/
  onlyInFront : Bool

/-- The arguments of a program, with the flags taken out. -/
structure Flagged where
  /-- The flags with their values, the last one first. -/
  flags : List (Char × String)
  others : List String

/-- Why flags could not be read. -/
inductive FlagFault where
  | unknown (letter : Char)
  | noValue (letter : Char)
deriving DecidableEq, Repr

/-- The words for a fault. -/
def FlagFault.words : FlagFault → String
  | .unknown letter => "invalid option -- '" ++ String.singleton letter ++ "'"
  | .noValue letter => "option requires an argument -- '" ++ String.singleton letter ++ "'"

/-- The message of a fault of the given program. -/
def FlagFault.message (program : String) (fault : FlagFault) : String :=
  program ++ ": " ++ fault.words ++ "\nTry '" ++ program ++ " --help' for more information."

namespace Flagged

/-- Whether a flag is there. -/
def has (flagged : Flagged) (letter : Char) : Bool :=
  flagged.flags.any (·.1 = letter)

/-- The last value of a flag. -/
def value? (flagged : Flagged) (letter : Char) : Option String :=
  flagged.flags.lookup letter

/-- Adds a flag that stands in front of the others. -/
def addFlag (letter : Char) (value : String) (flagged : Flagged) : Flagged :=
  { flagged with flags := flagged.flags ++ [(letter, value)] }

/-- Adds an argument that stands in front of the others. -/
def addOther (argument : String) (flagged : Flagged) : Flagged :=
  { flagged with others := argument :: flagged.others }

/-- Reads the letters of an argument before further arguments: the flags of the letters, and
whether the next argument is the value of the last of them. -/
def letters (known : FlagSet) : List Char → Except FlagFault (List (Char × String) × Option Char)
  | [] => .ok ([], none)
  | c :: rest =>
    if known.valued.toList.contains c then
      if rest.isEmpty then .ok ([], some c) else .ok ([(c, String.ofList rest)], none)
    else if known.plain.toList.contains c then
      (letters known rest).map fun (flags, last) => ((c, "") :: flags, last)
    else .error (.unknown c)

/-- Reads arguments, where `waiting` is a flag that waits for its value. -/
def read (known : FlagSet) (waiting : Option Char) : List String → Except FlagFault Flagged
  | [] =>
    match waiting with
    | some letter => .error (.noValue letter)
    | none => .ok ⟨[], []⟩
  | argument :: rest =>
    match waiting with
    | some letter => (read known none rest).map (addFlag letter argument)
    | none =>
      match argument.toList with
      | ['-', '-'] => .ok ⟨[], rest⟩
      | '-' :: c :: chars => do
        let (flags, waiting) ← letters known (c :: chars)
        let flagged ← read known waiting rest
        return { flagged with flags := flagged.flags ++ flags.reverse }
      | _ =>
        if known.onlyInFront then .ok ⟨[], argument :: rest⟩
        else (read known none rest).map (addOther argument)

/-- Reads the arguments of a program. -/
def ofArguments (known : FlagSet) (arguments : List String) : Except FlagFault Flagged :=
  read known none arguments

end Flagged

end CompileServer.Shell
