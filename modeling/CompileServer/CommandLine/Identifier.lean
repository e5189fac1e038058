/-!
# Identifiers

An identifier that was made up is a number of 128 bits in base sixteen, with marks that say
that it was drawn at random.
-/

namespace CompileServer.Identifier

/-- The last digits of a number in base sixteen, the given number of them. -/
def hexPlaces : Nat → Nat → List Char
  | 0, _ => []
  | places + 1, n => hexPlaces places (n / 16) ++ [Nat.digitChar (n % 16)]

/-- The identifier made of the bits of a number. -/
def ofBits (n : Nat) : String :=
  let first := hexPlaces 8 n
  let second := hexPlaces 4 (n / Nat.pow 2 32)
  let third := '4' :: hexPlaces 3 (n / Nat.pow 2 48)
  let fourth := Nat.digitChar (8 + n / Nat.pow 2 60 % 4) :: hexPlaces 3 (n / Nat.pow 2 62)
  let fifth := hexPlaces 12 (n / Nat.pow 2 74)
  String.ofList (['-'].intercalate [first, second, third, fourth, fifth])

/-- The step between the numbers of two identifiers of one run. -/
def stride : Nat := 0x9e3779b97f4a7c15f39cc0605cedc83

/-- The identifier for a line, given a number that was drawn for the run. -/
def ofLine (seed line : Nat) : String :=
  ofBits ((seed + line * stride) % Nat.pow 2 122)

end CompileServer.Identifier
