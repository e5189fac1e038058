/-!
# Numbers in scripts

Whole numbers as scripts write them.
-/

namespace CompileServer.Shell

/-- The value of a digit. -/
def digitOf (c : Char) : Nat :=
  if c.isDigit then c.toNat - 48 else c.toLower.toNat - 87

/-- Whether a character is a digit in a base of at most sixteen. -/
def isDigitIn (base : Nat) (c : Char) : Bool :=
  (c.isDigit || 'a' ≤ c.toLower && c.toLower ≤ 'f') && digitOf c < base

/-- The value of digits. -/
def valueOfDigits (base : Nat) (digits : List Char) : Nat :=
  digits.foldl (fun value c => value * base + digitOf c) 0

/-- The number that some characters stand for, if they are digits. -/
def naturalOf? (chars : List Char) : Option Nat :=
  if !chars.isEmpty && chars.all Char.isDigit then some (valueOfDigits 10 chars) else none

/-- Whether a character is a gap around numbers. -/
def isGap (c : Char) : Bool :=
  c = ' ' || c = '\t' || c = '\n'

/-- A text without the gaps around it. -/
def strip (text : String) : List Char :=
  ((text.toList.dropWhile isGap).reverse.dropWhile isGap).reverse

/-- The whole number that a text stands for; gaps around it do not matter. -/
def wholeNumber? (text : String) : Option Int :=
  match strip text with
  | '-' :: digits => (naturalOf? digits).map fun value => -(value : Int)
  | '+' :: digits => (naturalOf? digits).map Int.ofNat
  | digits => (naturalOf? digits).map Int.ofNat

/-- The largest number that a command takes. -/
def largestNumber : Nat := 0x7fffffff

/-- The number that is meant where a command needs one that is not negative. -/
def smallNumber? (text : String) : Option Nat :=
  match wholeNumber? text with
  | some (.ofNat value) => if value ≤ largestNumber then some value else none
  | _ => none

/-- The digits of a number. -/
def digitsIn (base value : Nat) : List Char :=
  Nat.toDigits base value

/-- The base of a number and its digits: a zero in front stands for base eight, and an x after
it for base sixteen. -/
def baseOf (chars : List Char) : Nat × List Char :=
  match chars with
  | '0' :: 'x' :: c :: rest => if isDigitIn 16 c then (16, c :: rest) else (8, chars)
  | '0' :: 'X' :: c :: rest => if isDigitIn 16 c then (16, c :: rest) else (8, chars)
  | '0' :: _ => (8, chars)
  | _ => (10, chars)

end CompileServer.Shell
