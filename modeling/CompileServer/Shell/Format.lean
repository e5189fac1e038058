import CompileServer.Shell.Number

/-!
# Formatted output

Texts with escapes, and formats that are filled with arguments.  A format is used again
as long as arguments are left; an argument that is missing is empty.
-/

namespace CompileServer.Shell

/-- What is to be written; it may be cut off, and then nothing is written after it. -/
structure Written where
  bytes : List UInt8
  isCut : Bool

namespace Written

/-- Nothing. -/
def nothing : Written :=
  ⟨[], false⟩

/-- A text as it stands. -/
def plain (text : String) : Written :=
  ⟨text.toUTF8.toList, false⟩

/-- Puts bytes in front. -/
def after (bytes : List UInt8) (written : Written) : Written :=
  { written with bytes := bytes ++ written.bytes }

end Written

/-- The bytes of a character. -/
def bytesOf (c : Char) : List UInt8 :=
  String.utf8EncodeChar c

/-- Reads at most the given number of digits in base eight. -/
def scanOctal (most : Nat) (chars : List Char) : UInt8 × List Char :=
  let digits := (chars.take most).takeWhile (isDigitIn 8)
  (UInt8.ofNat (valueOfDigits 8 digits), chars.drop digits.length)

/-- The byte of an escape of one letter. -/
def letterEscape? (c : Char) : Option UInt8 :=
  match c with
  | 'a' => some 0x07
  | 'b' => some 0x08
  | 'e' => some 0x1b
  | 'f' => some 0x0c
  | 'n' => some 0x0a
  | 'r' => some 0x0d
  | 't' => some 0x09
  | 'v' => some 0x0b
  | '\x5c' => some 0x5c
  | _ => none

/-- Reads an escape after its backslash. -/
def scanEscape (chars : List Char) : Option (List UInt8 × List Char) :=
  match chars with
  | [] => none
  | c :: rest =>
    match letterEscape? c with
    | some byte => some ([byte], rest)
    | none =>
      if isDigitIn 8 c then
        let (byte, rest) := scanOctal 3 (c :: rest)
        some ([byte], rest)
      else none

/-- Reads an escape of a text: bytes may have a zero in front. -/
def scanTextEscape (chars : List Char) : Option (List UInt8 × List Char) :=
  match chars with
  | '0' :: rest =>
    let (byte, rest) := scanOctal 3 rest
    some ([byte], rest)
  | chars => scanEscape chars

/-- Reads an escape of a format: quotes may be escaped. -/
def scanFormatEscape (chars : List Char) : Option (List UInt8 × List Char) :=
  match chars with
  | '\x22' :: rest => some ([0x22], rest)
  | '\x27' :: rest => some ([0x27], rest)
  | chars => scanEscape chars

/-- What a text with escapes stands for; an escape without a meaning stands for itself. -/
def unescapeChars : Nat → List Char → Written
  | 0, _ => .nothing
  | _, [] => .nothing
  | _ + 1, '\x5c' :: 'c' :: _ => ⟨[], true⟩
  | fuel + 1, '\x5c' :: rest =>
    match scanTextEscape rest with
    | some (bytes, rest) => (unescapeChars fuel rest).after bytes
    | none => (unescapeChars fuel rest).after [0x5c]
  | fuel + 1, c :: rest => (unescapeChars fuel rest).after (bytesOf c)

/-- What a text with escapes stands for. -/
def unescape (text : String) : Written :=
  unescapeChars (text.length + 1) text.toList

/-- How an argument is written. -/
structure Slot where
  flags : List Char
  width : Nat
  precision : Option Nat
  /-- The letter for what the argument stands for. -/
  kind : Char

namespace Slot

/-- Reads a slot after its percent sign; the letter may be missing. -/
def scan (chars : List Char) : Option Slot × List Char :=
  let isFlag := fun (c : Char) => ['-', '+', ' ', '0', '#'].contains c
  let flags := chars.takeWhile isFlag
  let rest := chars.dropWhile isFlag
  let width := valueOfDigits 10 (rest.takeWhile Char.isDigit)
  let (precision, rest) := match rest.dropWhile Char.isDigit with
    | '.' :: rest =>
      (some (valueOfDigits 10 (rest.takeWhile Char.isDigit)), rest.dropWhile Char.isDigit)
    | rest => (none, rest)
  match rest with
  | kind :: rest => (some ⟨flags, width, precision, kind⟩, rest)
  | [] => (none, [])

/-- Fills bytes up to the width of a slot with blanks. -/
def pad (slot : Slot) (bytes : List UInt8) : List UInt8 :=
  let gap := List.replicate (slot.width - bytes.length) 0x20
  if slot.flags.contains '-' then bytes ++ gap else gap ++ bytes

/-- A text in a slot, of which the precision leaves some bytes. -/
def text (slot : Slot) (bytes : List UInt8) : List UInt8 :=
  slot.pad (match slot.precision with
    | some most => bytes.take most
    | none => bytes)

/-- A number in a slot: its sign or mark and its digits, with zeros between them. -/
def number (slot : Slot) (mark digits : List Char) : List UInt8 :=
  let least := match slot.precision with
    | some least => least
    | none =>
      if slot.flags.contains '0' && !slot.flags.contains '-' then slot.width - mark.length else 1
  let zeros := List.replicate (least - digits.length) '0'
  slot.pad ((mark ++ zeros ++ digits).flatMap bytesOf)

/-- The mark of a number that is not negative. -/
def plusMark (slot : Slot) : List Char :=
  if slot.flags.contains '+' then ['+'] else if slot.flags.contains ' ' then [' '] else []

/-- The number that stands for a number without a sign. -/
def unsigned (value : Int) : Nat :=
  (value % (0x10000000000000000 : Nat)).toNat

/-- An integer in a slot, if the slot is for integers. -/
def integer? (slot : Slot) (value : Int) : Option (List UInt8) :=
  let isMarked := slot.flags.contains '#' && value ≠ 0
  let natural := unsigned value
  match slot.kind with
  | 'd' => some (signed value)
  | 'i' => some (signed value)
  | 'u' => some (slot.number [] (digitsIn 10 natural))
  | 'o' => some (slot.number [] ((if isMarked then ['0'] else []) ++ digitsIn 8 natural))
  | 'x' => some (slot.number (if isMarked then ['0', 'x'] else []) (digitsIn 16 natural))
  | 'X' =>
    some (slot.number (if isMarked then ['0', 'X'] else [])
      ((digitsIn 16 natural).map Char.toUpper))
  | _ => none
where
  signed (value : Int) : List UInt8 :=
    slot.number (if value < 0 then ['-'] else slot.plusMark) (digitsIn 10 value.natAbs)

end Slot

/-- The number that an argument of digits stands for, and what is wrong with it. -/
def digitsArgument (argument : String) : Int × List String :=
  let chars := argument.toList.dropWhile isGap
  let (isNegative, chars) := match chars with
    | '-' :: rest => (true, rest)
    | '+' :: rest => (false, rest)
    | chars => (false, chars)
  let (base, chars) := baseOf chars
  let digits := chars.takeWhile (isDigitIn base)
  let magnitude : Int := valueOfDigits base digits
  let value := if isNegative then -magnitude else magnitude
  if argument = "" then (0, [])
  else if digits.isEmpty then (0, [argument ++ ": expected numeric value"])
  else if digits.length < chars.length then (value, [argument ++ ": not completely converted"])
  else (value, [])

/-- The number that an argument stands for, and what is wrong with it: a quote stands for the
number of the byte after it. -/
def integerArgument (argument : String) : Int × List String :=
  match argument.toUTF8.toList with
  | 0x22 :: rest => ((rest.headD 0).toNat, [])
  | 0x27 :: rest => ((rest.headD 0).toNat, [])
  | _ => digitsArgument argument

/-- A format that was filled. -/
structure Filled where
  bytes : List UInt8
  /-- The arguments that are left. -/
  arguments : List String
  /-- Whether an argument could have been used. -/
  hasSlots : Bool
  /-- Whether nothing may follow. -/
  isCut : Bool
  /-- What was wrong. -/
  faults : List String

namespace Filled

/-- Puts bytes in front. -/
def after (bytes : List UInt8) (filled : Filled) : Filled :=
  { filled with bytes := bytes ++ filled.bytes }

/-- Puts what an argument became in front. -/
def afterSlot (bytes : List UInt8) (faults : List String) (filled : Filled) : Filled :=
  { filled with
    bytes := bytes ++ filled.bytes
    hasSlots := true
    faults := faults ++ filled.faults }

end Filled

/-- Fills a format once. -/
def fillOnce : Nat → List Char → List String → Filled
  | 0, _, arguments => ⟨[], arguments, false, false, []⟩
  | _, [], arguments => ⟨[], arguments, false, false, []⟩
  | fuel + 1, '\x5c' :: rest, arguments =>
    match scanFormatEscape rest with
    | some (bytes, rest) => (fillOnce fuel rest arguments).after bytes
    | none => (fillOnce fuel rest arguments).after [0x5c]
  | fuel + 1, '%' :: '%' :: rest, arguments => (fillOnce fuel rest arguments).after [0x25]
  | fuel + 1, '%' :: rest, arguments =>
    let argument := arguments.headD ""
    match Slot.scan rest with
    | (none, _) => ⟨[], [], false, true, ["%: invalid directive"]⟩
    | (some slot, after) =>
      let rest := fillOnce fuel after arguments.tail
      match slot.kind with
      | 's' => rest.afterSlot (slot.text argument.toUTF8.toList) []
      | 'c' => rest.afterSlot (slot.pad (argument.toUTF8.toList.take 1)) []
      | 'b' =>
        let written := unescape argument
        if written.isCut then ⟨slot.text written.bytes, [], true, true, []⟩
        else rest.afterSlot (slot.text written.bytes) []
      | kind =>
        let (value, faults) := integerArgument argument
        match slot.integer? value with
        | some bytes => rest.afterSlot bytes faults
        | none => ⟨[], [], false, true, ["%" ++ String.singleton kind ++ ": invalid directive"]⟩
  | fuel + 1, c :: rest, arguments => (fillOnce fuel rest arguments).after (bytesOf c)

/-- Fills a format with all arguments, but no more often than the given number. -/
def fillAll (format : String) : Nat → List String → Filled
  | 0, arguments => ⟨[], arguments, false, false, []⟩
  | fuel + 1, arguments =>
    let filled := fillOnce (format.length + 1) format.toList arguments
    if filled.hasSlots && !filled.isCut && !filled.arguments.isEmpty then
      (fillAll format fuel filled.arguments).afterSlot filled.bytes filled.faults
    else filled

/-- Fills a format as often as it takes to use every argument. -/
def fill (format : String) (arguments : List String) : Filled :=
  fillAll format (arguments.length + 1) arguments

end CompileServer.Shell
