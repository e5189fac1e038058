import CompileServer.Shell.Number

/-!
# Formulas

Formulas over whole numbers of 64 bits.  A formula is evaluated while it is read, so of two
faults the one further left shows.  Parts that are skipped are read but change nothing.
-/

namespace CompileServer.Shell

/-- A part of a formula. -/
inductive Symbol where
  | number (value : Int)
  | name (text : String)
  | operator (text : String)
deriving DecidableEq, Repr

/-- Why a formula has no value. -/
inductive FormulaFault where
  | divisionByZero
  /-- Something else was expected. -/
  | expecting (what : String)
  /-- A variable holds no number. -/
  | noNumber (text : String)
deriving DecidableEq, Repr

/-- The message of a fault in the given formula. -/
def FormulaFault.message (formula : String) : FormulaFault → String
  | .divisionByZero => "arithmetic expression: division by zero: \"" ++ formula ++ "\""
  | .expecting what => "arithmetic expression: expecting " ++ what ++ ": \"" ++ formula ++ "\""
  | .noNumber text => "Illegal number: " ++ text

/-- The bounds of numbers: what goes beyond them comes in again on the other side. -/
def wrap (value : Int) : Int :=
  Int.bmod value 0x10000000000000000

/-- The largest number. -/
def greatest : Nat := 0x7fffffffffffffff

/-- The nearest number to a value. -/
def clamp (value : Int) : Int :=
  max (-(greatest : Int) - 1) (min value greatest)

namespace Symbol

/-- The operators, where no operator stands behind one that it starts with. -/
def operators : List String :=
  ["<<=", ">>=", "<<", ">>", "<=", ">=", "==", "!=", "&&", "||", "+=", "-=", "*=", "/=", "%=",
    "&=", "^=", "|=", "=", "+", "-", "*", "/", "%", "&", "^", "|", "<", ">", "!", "~", "(", ")",
    "?", ":"]

/-- The symbols of a text. -/
def ofChars : Nat → List Char → List Symbol
  | 0, _ => []
  | _, [] => []
  | fuel + 1, c :: rest =>
    if isGap c then ofChars fuel rest
    else if c.isDigit then
      let (base, digits) := baseOf (c :: rest)
      let found := digits.takeWhile (isDigitIn base)
      .number (clamp (valueOfDigits base found)) :: ofChars fuel (digits.drop found.length)
    else if c.isAlpha || c = '_' then
      let isPart := fun (c : Char) => c.isAlphanum || c = '_'
      .name (String.ofList ((c :: rest).takeWhile isPart))
        :: ofChars fuel ((c :: rest).dropWhile isPart)
    else
      match operators.find? fun text => text.toList.isPrefixOf (c :: rest) with
      | some text => .operator text :: ofChars fuel ((c :: rest).drop text.length)
      | none => .operator (String.singleton c) :: ofChars fuel rest

end Symbol

/-- A calculation on its way. -/
structure Calculation where
  /-- What is left of the formula. -/
  symbols : List Symbol
  /-- The variables and their values. -/
  bindings : List (String × String)
  /-- The values that were assigned, the last one first. -/
  assigned : List (String × Int)

/-- Calculating, which may fail. -/
abbrev Calculating (β : Type) := ExceptT FormulaFault (StateM Calculation) β

namespace Calculating

/-- The number that the text of a variable stands for; an empty one stands for zero. -/
def numberOf? (text : String) : Option Int :=
  let chars := text.toList.dropWhile isGap
  let (isNegative, chars) := match chars with
    | '-' :: rest => (true, rest)
    | '+' :: rest => (false, rest)
    | chars => (false, chars)
  let (base, chars) := baseOf chars
  let digits := chars.takeWhile (isDigitIn base)
  let magnitude : Int := valueOfDigits base digits
  let value := if isNegative then -magnitude else magnitude
  if digits.isEmpty then if text.toList.all isGap then some 0 else none
  else if (chars.drop digits.length).all isGap && clamp value = value then some value
  else none

/-- The value of a variable. -/
def valueOf (name : String) : Calculating Int := do
  let calculation ← get
  match calculation.assigned.lookup name with
  | some value => return value
  | none =>
    let text := (calculation.bindings.lookup name).getD ""
    match numberOf? text with
    | some value => return value
    | none => throw (.noNumber text)

/-- The next symbol, which stays there. -/
def look : Calculating (Option Symbol) := do
  return (← get).symbols.head?

/-- Drops the next symbol. -/
def skip : Calculating Unit :=
  modify fun calculation => { calculation with symbols := calculation.symbols.tail }

/-- A truth value as a number. -/
def truth (holds : Bool) : Int :=
  if holds then 1 else 0

/-- How tightly an operator binds; the tightest binding is zero. -/
def level? (operator : String) : Option Nat :=
  match operator with
  | "*" => some 0
  | "/" => some 0
  | "%" => some 0
  | "+" => some 1
  | "-" => some 1
  | "<<" => some 2
  | ">>" => some 2
  | "<" => some 3
  | "<=" => some 3
  | ">" => some 3
  | ">=" => some 3
  | "==" => some 4
  | "!=" => some 4
  | "&" => some 5
  | "^" => some 6
  | "|" => some 7
  | _ => none

/-- The number of levels. -/
def levels : Nat := 8

/-- The bits of a number as a number without a sign. -/
def bits (value : Int) : Nat :=
  (value % (0x10000000000000000 : Nat)).toNat

/-- Combines two numbers bit by bit. -/
def bitwise (combine : Nat → Nat → Nat) (a b : Int) : Int :=
  wrap (combine (bits a) (bits b))

/-- Applies an operator. -/
def apply (operator : String) (a b : Int) : Calculating Int := do
  let places := bits b % 64
  match operator with
  | "*" => return wrap (a * b)
  | "/" => if b = 0 then throw .divisionByZero else return wrap (a.tdiv b)
  | "%" => if b = 0 then throw .divisionByZero else return wrap (a.tmod b)
  | "+" => return wrap (a + b)
  | "-" => return wrap (a - b)
  | "<<" => return wrap (bits a <<< places)
  | ">>" => return a >>> places
  | "<" => return truth (a < b)
  | "<=" => return truth (a ≤ b)
  | ">" => return truth (a > b)
  | ">=" => return truth (a ≥ b)
  | "==" => return truth (a = b)
  | "!=" => return truth (a ≠ b)
  | "&" => return bitwise (· &&& ·) a b
  | "^" => return bitwise (· ^^^ ·) a b
  | _ => return bitwise (· ||| ·) a b

/-- The operator with which an assignment changes the value that is there. -/
def assigning? (operator : String) : Option (Option String) :=
  if operator = "=" then some none
  else if operator.endsWith "=" && (level? (operator.dropEnd 1).toString).isSome
      && operator != "<=" && operator != ">=" then
    some (some (operator.dropEnd 1).toString)
  else none

/-- Assigns a variable. -/
def assign (name : String) (value : Int) : Calculating Int := do
  modify fun calculation =>
    { calculation with assigned := (name, value) :: calculation.assigned }
  return value

/-- What is still to be evaluated. -/
inductive Stage where
  /-- Everything, from assignments on. -/
  | whole
  /-- A choice between two values, and what binds tighter. -/
  | choice
  | disjunction
  | conjunction
  /-- The operators up to a level. -/
  | upTo (level : Nat)
  /-- A value with signs in front. -/
  | single
deriving DecidableEq, Repr

/-- Evaluates the operators of a level from left to right; `operand` evaluates what binds
tighter. -/
def chain (operand : Calculating Int) (skips : Bool) (level : Nat) : Nat → Int →
    Calculating Int
  | 0, a => return a
  | fuel + 1, a => do
    match ← look with
    | some (.operator operator) =>
      if level? operator = some level then
        skip
        let b ← operand
        let value ← if skips then pure b else apply operator a b
        chain operand skips level fuel value
      else return a
    | _ => return a

/-- Evaluates a part of a formula; where it is skipped nothing is looked up and changed. -/
def evaluate : Nat → Bool → Stage → Calculating Int
  | 0, _, _ => throw (.expecting "primary")
  | fuel + 1, skips, .whole => do
    match (← get).symbols with
    | .name name :: .operator operator :: rest =>
      match assigning? operator with
      | some change =>
        modify ({ · with symbols := rest })
        let value ← evaluate fuel skips .whole
        if skips then return value
        else match change with
          | none => assign name value
          | some operator => assign name (← apply operator (← valueOf name) value)
      | none => evaluate fuel skips .choice
    | _ => evaluate fuel skips .choice
  | fuel + 1, skips, .choice => do
    let condition ← evaluate fuel skips .disjunction
    if (← look) = some (.operator "?") then
      skip
      let yes ← evaluate fuel (skips || condition = 0) .whole
      if (← look) ≠ some (.operator ":") then throw (.expecting "':'")
      skip
      let no ← evaluate fuel (skips || condition ≠ 0) .choice
      return if condition ≠ 0 then yes else no
    else return condition
  | fuel + 1, skips, .disjunction => do
    let a ← evaluate fuel skips .conjunction
    if (← look) = some (.operator "||") then
      skip
      let b ← evaluate fuel (skips || a ≠ 0) .disjunction
      return truth (a ≠ 0 || b ≠ 0)
    else return a
  | fuel + 1, skips, .conjunction => do
    let a ← evaluate fuel skips (.upTo (levels - 1))
    if (← look) = some (.operator "&&") then
      skip
      let b ← evaluate fuel (skips || a = 0) .conjunction
      return truth (a ≠ 0 && b ≠ 0)
    else return a
  | fuel + 1, skips, .upTo level => do
    let operand := match level with
      | 0 => evaluate fuel skips .single
      | tighter + 1 => evaluate fuel skips (.upTo tighter)
    let first ← operand
    chain operand skips level ((← get).symbols.length + 1) first
  | fuel + 1, skips, .single => do
    let symbol ← look
    skip
    match symbol with
    | some (.number value) => return value
    | some (.name name) => if skips then return 0 else valueOf name
    | some (.operator "(") =>
      let value ← evaluate fuel skips .whole
      if (← look) ≠ some (.operator ")") then throw (.expecting "')'")
      skip
      return value
    | some (.operator "+") => evaluate fuel skips .single
    | some (.operator "-") => return wrap (-(← evaluate fuel skips .single))
    | some (.operator "!") => return truth ((← evaluate fuel skips .single) = 0)
    | some (.operator "~") => return -(← evaluate fuel skips .single) - 1
    | _ => throw (.expecting "primary")

end Calculating

/-- The value of a formula where variables have the given values, and the values that it assigns
to variables, the last one first. -/
def calculate (bindings : List (String × String)) (formula : String) :
    Except FormulaFault Int × List (String × Int) :=
  let symbols := Symbol.ofChars (formula.length + 1) formula.toList
  let evaluation : Calculating Int := do
    let value ← Calculating.evaluate (16 * symbols.length + 32) false .whole
    if (← Calculating.look).isSome then throw (.expecting "EOF") else return value
  let (result, calculation) := evaluation ⟨symbols, bindings, []⟩
  (result, calculation.assigned)

end CompileServer.Shell
