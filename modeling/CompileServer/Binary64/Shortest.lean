import CompileServer.Binary64.Basic

/-!
# Shortest decimal digits

The decimal form of a number is the shortest one that reads back as that
number, and of the shortest ones the nearest.  Candidates of every length are
the two points of the decimal grid beside the exact value.
-/

namespace CompileServer

/-- A decimal significand and its power of ten: `digits * 10 ^ exponent`. -/
structure Decimal where
  digits : Nat
  exponent : Int
deriving DecidableEq, Repr

namespace Binary64

/-- The value, and the ends of the interval of reals that round to it, in quarters of
the last place; the ends belong to the interval when `closed`. -/
structure Neighbourhood where
  low : Ratio
  value : Ratio
  high : Ratio
  closed : Bool

/-- The reals that round to a magnitude other than zero. -/
def neighbourhood (magnitude : Nat) : Neighbourhood :=
  let m := significand magnitude
  let quarter := exponent magnitude - 2
  let atBinade := magnitude ≥ Nat.pow 2 53 && m == Nat.pow 2 52
  { low := (Ratio.mk (4 * m - if atBinade then 1 else 2) 1).scale quarter
    value := (Ratio.mk (4 * m) 1).scale quarter
    high := (Ratio.mk (4 * m + 2) 1).scale quarter
    closed := m % 2 == 0 }

/-- `a ≤ b`, or `a < b` when not `closed`. -/
def Ratio.before (closed : Bool) (a b : Ratio) : Bool :=
  if closed then a.num * b.den ≤ b.num * a.den else a.num * b.den < b.num * a.den

/-- Whether a decimal reads back as the magnitude with this neighbourhood. -/
def Neighbourhood.holds (n : Neighbourhood) (x : Ratio) : Bool :=
  n.low.before n.closed x && x.before n.closed n.high

/-- The exact value of a decimal. -/
def decimalRatio (digits : Nat) : Int → Ratio
  | .ofNat e => ⟨digits * Nat.pow 10 e, 1⟩
  | .negSucc e => ⟨digits, Nat.pow 10 (e + 1)⟩

/-- The whole number of steps of `10 ^ power` below a quotient. -/
def stepsBelow (x : Ratio) : Int → Nat
  | .ofNat e => x.num / (x.den * Nat.pow 10 e)
  | .negSucc e => x.num * Nat.pow 10 (e + 1) / x.den

/-- The distance between two quotients, with a common denominator. -/
def Ratio.distance (a b : Ratio) : Ratio :=
  let x := a.num * b.den
  let y := b.num * a.den
  ⟨if x ≤ y then y - x else x - y, a.den * b.den⟩

/-- The point of the grid of step `10 ^ power` that reads back, if there is one: of two
the nearer, and of two equally near the even one. -/
def gridPoint (n : Neighbourhood) (power : Int) : Option Decimal :=
  let below := stepsBelow n.value power
  let lower := decimalRatio below power
  let upper := decimalRatio (below + 1) power
  match n.holds lower, n.holds upper with
  | false, false => none
  | true, false => some ⟨below, power⟩
  | false, true => some ⟨below + 1, power⟩
  | true, true =>
    let down := lower.distance n.value
    let up := upper.distance n.value
    if down.before false up then some ⟨below, power⟩
    else if up.before false down then some ⟨below + 1, power⟩
    else some ⟨below + below % 2, power⟩

/-- The first hit on ever finer grids, starting at step `10 ^ power`. -/
def finestGrid (n : Neighbourhood) : Nat → Int → Decimal
  | 0, power => ⟨stepsBelow n.value power, power⟩
  | fuel + 1, power =>
    match gridPoint n power with
    | some point => point
    | none => finestGrid n fuel (power - 1)

/-- The decimal without trailing zeros, up to the given number of them. -/
def Decimal.dropZeros : Nat → Decimal → Decimal
  | 0, d => d
  | fuel + 1, d =>
    if d.digits % 10 = 0 && d.digits ≠ 0 then dropZeros fuel ⟨d.digits / 10, d.exponent + 1⟩ else d

/-- The power of ten of the first decimal place at or above the value. -/
def leadingPower (x : Ratio) : Int :=
  if x.den ≤ x.num then (Nat.toDigits 10 (x.num / x.den)).length
  else 1 - (Nat.toDigits 10 (x.den / x.num)).length + 1

/-- The shortest decimal that reads back as the magnitude. -/
def shortest (magnitude : Nat) : Decimal :=
  if magnitude = 0 then ⟨0, 0⟩
  else
    let n := neighbourhood magnitude
    Decimal.dropZeros 400 (finestGrid n 25 (leadingPower n.value))

end Binary64

/-- Ways to write a decimal: as digits with a point, or with a power of ten. -/
structure DecimalStyle where
  /-- The least power of ten of the first digit that is written in place. -/
  leastInPlace : Int
  /-- The least power of ten of the first digit that is written with an exponent again. -/
  exponentFrom : Int
  /-- Whether a whole number ends in `.0`. -/
  marksWhole : Bool
  /-- Whether an exponent that is not negative shows its plus sign. -/
  showsPlus : Bool
deriving Repr

/-- Numbers inside a document: a power of ten below `-5` or from `16` on is written as an
exponent with its sign, and a whole number shows a point. -/
def DecimalStyle.document : DecimalStyle :=
  ⟨-5, 16, true, true⟩

/-- The digits of a natural, most significant first. -/
def natDigits (n : Nat) : List Char :=
  Nat.toDigits 10 n

/-- The digits of an integer. -/
def intDigits : Int → List Char
  | .ofNat n => natDigits n
  | .negSucc n => '-' :: natDigits (n + 1)

/-- The power of ten after the mark `e`. -/
def DecimalStyle.writeExponent (style : DecimalStyle) (power : Int) : List Char :=
  'e' :: ((if style.showsPlus && 0 ≤ power then ['+'] else []) ++ intDigits power)

/-- A decimal in the given style. -/
def DecimalStyle.write (style : DecimalStyle) (d : Decimal) : List Char :=
  let digits := natDigits d.digits
  let count : Int := digits.length
  let leading := count + d.exponent - 1
  if d.digits = 0 then '0' :: (if style.marksWhole then ['.', '0'] else [])
  else if leading < style.leastInPlace || style.exponentFrom ≤ leading then
    let mantissa := match digits with
      | [] => []
      | [digit] => [digit]
      | digit :: rest => digit :: '.' :: rest
    mantissa ++ style.writeExponent leading
  else if 0 ≤ d.exponent then
    digits ++ List.replicate d.exponent.toNat '0' ++ (if style.marksWhole then ['.', '0'] else [])
  else if 0 ≤ leading then
    let whole := (leading + 1).toNat
    digits.take whole ++ '.' :: digits.drop whole
  else
    '0' :: '.' :: List.replicate (-leading - 1).toNat '0' ++ digits

/-- The text of a finite number. -/
def Binary64.write (style : DecimalStyle) (x : Binary64) : List Char :=
  (if x.isNegative then ['-'] else []) ++ style.write (Binary64.shortest x.magnitude)

end CompileServer
