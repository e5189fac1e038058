import CompileServer.Json.Scanner
import CompileServer.Toml.Value

/-!
# Numbers, dates and truth values

The values of a configuration document that are written without quotes.
-/

namespace CompileServer.Toml

/-- The value of a digit in the given base, at most sixteen. -/
def digitIn (base : Nat) (c : Char) : Option Nat :=
  let value? :=
    if '0' ≤ c && c ≤ '9' then some (c.toNat - '0'.toNat)
    else if 'a' ≤ c && c ≤ 'f' then some (c.toNat - 'a'.toNat + 10)
    else if 'A' ≤ c && c ≤ 'F' then some (c.toNat - 'A'.toNat + 10)
    else none
  value?.filter (· < base)

/-- The digits of a text; an underscore may stand between two digits. -/
def digitsOf (base : Nat) : List Char → Option (List Nat)
  | [] => none
  | [c] => (digitIn base c).map ([·])
  | c :: '_' :: rest => do
    let d ← digitIn base c
    let more ← digitsOf base rest
    some (d :: more)
  | c :: rest => do
    let d ← digitIn base c
    let more ← digitsOf base rest
    some (d :: more)

/-- The number that digits stand for. -/
def naturalIn (base : Nat) (digits : List Nat) : Nat :=
  digits.foldl (fun n d => n * base + d) 0

/-- A whole number that fits 128 bits. -/
def wholeValue (negative : Bool) (n : Nat) : Option Value :=
  if negative then (if n ≤ Nat.pow 2 127 then some (.int (-n)) else none)
  else if n < Nat.pow 2 128 then some (.int n) else none

/-- Digits without a leading zero. -/
def plainDigits (cs : List Char) : Option (List Nat) := do
  let digits ← digitsOf 10 cs
  if digits.head? = some 0 && 1 < cs.length then none else some digits

/-- The number `significand * 10 ^ power`, unless it is beyond the largest finite number. -/
def floatValue (negative : Bool) (significand : Nat) (power : Int) : Option Value :=
  let size : Int := (natDigits significand).length + power
  if significand = 0 || size < -400 then some (.float (.ofMagnitude negative 0))
  else if 400 < size then none
  else
    let magnitude := Binary64.ofRatio (Binary64.decimalRatio significand power)
    if magnitude < Binary64.infinity then some (.float (.ofMagnitude negative magnitude)) else none

/-- The power of ten after the letter `e`. -/
def powerOf : List Char → Option Int
  | '+' :: rest => (digitsOf 10 rest).map fun digits => naturalIn 10 digits
  | '-' :: rest => (digitsOf 10 rest).map fun digits => -(naturalIn 10 digits : Int)
  | rest => (digitsOf 10 rest).map fun digits => naturalIn 10 digits

/-- Splits a text at the first character of a class; the character itself is dropped. -/
def splitAtFirst (p : Char → Bool) (cs : List Char) : List Char × Option (List Char) :=
  (cs.takeWhile fun c => !p c, match cs.dropWhile fun c => !p c with
    | [] => none
    | _ :: rest => some rest)

/-- A number after its sign. -/
def unsignedNumber (negative : Bool) (cs : List Char) : Option Value :=
  let (mantissa, power) := splitAtFirst (fun c => c = 'e' || c = 'E') cs
  let (whole, fraction) := splitAtFirst (· = '.') mantissa
  match power, fraction with
  | none, none => do
    let digits ← plainDigits whole
    wholeValue negative (naturalIn 10 digits)
  | power, fraction => do
    let digits ← plainDigits whole
    let places ← match fraction with
      | some places => digitsOf 10 places
      | none => some []
    let shift ← match power with
      | some power => powerOf power
      | none => some 0
    floatValue negative (naturalIn 10 (digits ++ places)) (shift - places.length)

/-- The bits of a value that is not a number. -/
def notANumber (negative : Bool) : Binary64 :=
  .ofMagnitude negative (Binary64.infinity + Nat.pow 2 51)

/-- A number with its sign. -/
def signedNumber (negative : Bool) (cs : List Char) : Option Value :=
  if cs = "inf".toList then some (.float (.ofMagnitude negative Binary64.infinity))
  else if cs = "nan".toList then some (.float (notANumber negative))
  else unsignedNumber negative cs

/-- A number. -/
def numberOf : List Char → Option Value
  | '+' :: rest => signedNumber false rest
  | '-' :: rest => signedNumber true rest
  | '0' :: 'x' :: rest =>
    (digitsOf 16 rest).bind fun digits => wholeValue false (naturalIn 16 digits)
  | '0' :: 'o' :: rest => (digitsOf 8 rest).bind fun digits => wholeValue false (naturalIn 8 digits)
  | '0' :: 'b' :: rest => (digitsOf 2 rest).bind fun digits => wholeValue false (naturalIn 2 digits)
  | rest => signedNumber false rest

/-- A natural number of exactly the given number of digits, and what follows it. -/
def fixedDigits : Nat → List Char → Option (Nat × List Char)
  | 0, cs => some (0, cs)
  | _ + 1, [] => none
  | n + 1, c :: rest => do
    let d ← digitIn 10 c
    let (low, after) ← fixedDigits n rest
    some (d * Nat.pow 10 n + low, after)

/-- The days of a month. -/
def daysIn (year month : Nat) : Nat :=
  if month = 2 then
    if year % 4 = 0 && (year % 100 ≠ 0 || year % 400 = 0) then 29 else 28
  else if month = 4 || month = 6 || month = 9 || month = 11 then 30
  else 31

/-- Reads a date and gives what follows it. -/
def scanDate (cs : List Char) : Option (List Char) := do
  let (year, rest) ← fixedDigits 4 cs
  let rest ← match rest with
    | '-' :: rest => some rest
    | _ => none
  let (month, rest) ← fixedDigits 2 rest
  let rest ← match rest with
    | '-' :: rest => some rest
    | _ => none
  let (day, rest) ← fixedDigits 2 rest
  if 1 ≤ month && month ≤ 12 && 1 ≤ day && day ≤ daysIn year month then some rest else none

/-- Reads a fraction of a second, if there is one, and gives what follows it. -/
def scanFraction : List Char → Option (List Char)
  | '.' :: rest =>
    if (rest.takeWhile Char.isDigit).isEmpty then none else some (rest.dropWhile Char.isDigit)
  | rest => some rest

/-- Reads a time, with or without seconds, and gives what follows it. -/
def scanTime (cs : List Char) : Option (List Char) := do
  let (hour, rest) ← fixedDigits 2 cs
  let rest ← match rest with
    | ':' :: rest => some rest
    | _ => none
  let (minute, rest) ← fixedDigits 2 rest
  if 24 ≤ hour || 60 ≤ minute then none
  else match rest with
    | ':' :: rest => do
      let (second, rest) ← fixedDigits 2 rest
      if 60 < second then none else scanFraction rest
    | rest => some rest

/-- Whether a text is the distance from universal time, or nothing. -/
def isOffset : List Char → Bool
  | [] => true
  | [c] => c = 'Z' || c = 'z'
  | sign :: rest =>
    (sign = '+' || sign = '-') && match fixedDigits 2 rest with
      | some (hour, ':' :: rest) =>
        match fixedDigits 2 rest with
        | some (minute, []) => hour < 24 && minute < 60
        | _ => false
      | _ => false

/-- Whether a text is a date, a time or both. -/
def isMoment (cs : List Char) : Bool :=
  match scanDate cs with
  | some [] => true
  | some (c :: rest) =>
    (c = 'T' || c = 't' || c = ' ') && ((scanTime rest).map isOffset).getD false
  | none => scanTime cs == some []

/-- A value that is written without quotes. -/
def scalarOf (cs : List Char) : Option Value :=
  if cs = "true".toList then some (.bool true)
  else if cs = "false".toList then some (.bool false)
  else if isMoment cs then some (.moment (String.ofList cs))
  else numberOf cs

end CompileServer.Toml
